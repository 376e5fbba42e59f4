import ColdStore.Cache.Separation
import ColdStore.Cache.Steps
import ColdStore.Process.Shelf

/-! The index of a cache as a shelf of names for the objects in its storage. -/

namespace ColdStore

open Rust Process

/-- A key in one of the two categories. -/
abbrev CachePlace := CacheCategory × CacheKey

namespace CacheIndex

variable (index : CacheIndex)

/-- The identifiers that the entries name. -/
def names (place : CachePlace) : Option Nat :=
  ((index.entries place.1).get place.2).map StoredEntry.storageId

@[simp] theorem names_updateHitState (hit : Bool) :
    (index.updateHitState hit).names = index.names := by
  funext place
  simp [names]

@[simp] theorem names_touchEntry (now : Int) (kind : CacheCategory)
    (key : CacheKey) : (index.touchEntry now kind key).names = index.names := by
  funext place
  simp only [names, get_touchEntry]
  split
  · rename_i same
    obtain ⟨sameCategory, sameKey⟩ := same
    rw [sameCategory, sameKey, Option.map_map]
    rfl
  · rfl

theorem names_removeEntry (kind : CacheCategory) (key : CacheKey)
    (place : CachePlace) : (index.removeEntry kind key).names place =
      if place = (kind, key) then none else index.names place := by
  obtain ⟨other, found⟩ := place
  by_cases same : other = kind
  · subst same
    by_cases equal : found = key <;> simp [names, entries_removeEntry, HashMap.get_remove, equal]
  · simp [names, entries_removeEntry, same]

theorem names_insertEntry (key : CacheKey) (entry : StoredEntry)
    (place : CachePlace) : (index.insertEntry key entry).2.names place =
      if place = (entry.xattrs.category, key) then some entry.storageId else index.names place := by
  obtain ⟨other, found⟩ := place
  by_cases same : other = entry.xattrs.category
  · subst same
    by_cases equal : found = key <;> simp [names, entries_insertEntry, HashMap.get_insert, equal]
  · simp [names, entries_insertEntry, same]

theorem stillStored_iff (kind : CacheCategory) (key : CacheKey) (storageId : Nat) :
    index.stillStored kind key storageId = true ↔ index.names (kind, key) = some storageId := by
  simp [stillStored, names, Option.any_eq_true, Option.map_eq_some_iff]

end CacheIndex

section

open StorageLaws

variable {σ : Type} [CacheBackend σ] [StorageLaws σ]

/-- The names in the index, and the objects in storage. -/
def CacheState.shelf (cache : CacheState σ) : Shelf CachePlace Nat where
  named := cache.index.names
  stored id := (object cache.backend id).isSome
  issued := issued cache.backend

/-- Every entry leads to an object in storage. -/
def CacheState.AllStored (cache : CacheState σ) : Prop :=
  ∀ kind key entry, cache.findEntry key kind = some entry →
    (object cache.backend entry.storageId).isSome

/-- Only the deletion of an object that is not there fails. -/
def RefusesMissing (σ : Type) [CacheBackend σ] [StorageLaws σ] : Prop :=
  ∀ (backend : σ) id error, (CacheBackend.delete backend id).1 = .error error →
    object backend id = none

theorem refusesMissing_hdd : RefusesMissing HddBackend := by
  intro backend id error failed
  cases stored : backend.files.get id with
  | none => exact congrArg (Option.map HddFile.data) stored
  | some file =>
    rw [CacheState.delete_stored stored] at failed
    cases failed

end

namespace Stepwise

/-- What an access does with the names and the objects. -/
def act : Exchange CacheAccess CacheAccess.Value → ShelfAction CachePlace Nat
  | ⟨.readIndex, index⟩ => .looked (CacheIndex.names index)
  | ⟨.write _ _ _, .ok id⟩ => .created id
  | ⟨.insertEntry key entry, previous⟩ =>
    .entered (entry.xattrs.category, key) entry.storageId (Option.map StoredEntry.storageId previous)
  | ⟨.evictIfStored kind key victim, true⟩ => .taken (kind, key) victim.storageId
  | ⟨.removeIfStored kind key id, _⟩ => .settled (kind, key) id
  | ⟨.delete id, .ok ()⟩ => .destroyed id
  | _ => .nothing

/-- A victim is put back. -/
def CacheAccess.RollsBack : CacheAccess → Prop
  | .putBack _ _ _ => True
  | _ => False

instance (access : CacheAccess) : Decidable access.RollsBack := by
  unfold CacheAccess.RollsBack
  split <;> infer_instance

section

open StorageLaws

variable {σ : Type} [CacheBackend σ] [StorageLaws σ] {before : CacheState σ}

/-- While the storage is left alone, it is enough to see what the index names. -/
theorem does_of_index {index : CacheIndex} {action : ShelfAction CachePlace Nat}
    (named : ∀ place id, index.names place = some id →
      before.index.names place = some id ∨ ∃ previous, action = .entered place id previous)
    (effect : action.Effect before.shelf ({ before with index } : CacheState σ).shelf) :
    before.shelf.Does ({ before with index } : CacheState σ).shelf action :=
  ⟨fun _ given => given, fun _ _ stored => .inl stored, named, effect⟩

/-- What stays in an index was there, but for the entry that was removed. -/
theorem names_of_removeEntry {index : CacheIndex} {kind : CacheCategory} {key : CacheKey}
    {place : CachePlace} {id : Nat} (there : (index.removeEntry kind key).names place = some id) :
    index.names place = some id ∧ place ≠ (kind, key) := by
  rw [CacheIndex.names_removeEntry] at there
  split at there
  · cases there
  · rename_i other
    exact ⟨there, other⟩

/-- Every access but a roll-back does what it is taken for. -/
theorem serve_does (refuses : RefusesMissing σ) (now : Int) {access : CacheAccess}
    (forward : ¬ access.RollsBack) :
    before.shelf.Does (access.serve now before).2.shelf
      (act ⟨access, (access.serve now before).1⟩) := by
  cases access with
  | now | lockWrites | unlockWrites | availableBytes =>
    exact does_of_index (fun _ _ there => .inl there) trivial
  | readIndex => exact does_of_index (fun _ _ there => .inl there) rfl
  | updateHitState _ | touchEntry _ _ _ =>
    exact does_of_index (fun _ _ there => .inl (by simpa using there)) trivial
  | insertEntry key entry =>
    refine does_of_index (fun place id there => ?_) ⟨rfl, ?_⟩
    · rw [CacheIndex.names_insertEntry] at there
      split at there
      · rename_i same
        cases there
        exact .inr ⟨_, by rw [same]; rfl⟩
      · exact .inl there
    · simp [CacheState.shelf, CacheIndex.names_insertEntry]
  | removeIfStored kind key id =>
    simp only [CacheAccess.serve]
    split
    · exact does_of_index (fun _ _ there => .inl (names_of_removeEntry there).1)
        fun there => (names_of_removeEntry there).2 rfl
    · rename_i gone
      exact does_of_index (fun _ _ there => .inl there)
        fun there => gone ((before.index.stillStored_iff _ _ _).mpr there)
  | evictIfStored kind key victim =>
    simp only [CacheAccess.serve]
    split
    · rename_i there
      exact does_of_index (fun _ _ there => .inl (names_of_removeEntry there).1)
        ⟨(before.index.stillStored_iff _ _ _).mp there,
          fun there => (names_of_removeEntry there).2 rfl⟩
    · exact does_of_index (fun _ _ there => .inl there) trivial
  | putBack => exact absurd trivial forward
  | write key data xattrs =>
    refine ⟨fun _ given => (write_others given).1, fun id given stored => .inl ?_,
      fun _ _ there => .inl there, ?_⟩
    · exact (congrArg Option.isSome (write_others given).2).trans stored
    · simp only [CacheAccess.serve]
      cases made : (CacheBackend.write before.backend key.asCursor data xattrs).1 with
      | error error => trivial
      | ok id =>
        exact ⟨write_fresh made, (write_stored made).1,
          by simp [CacheState.shelf, (write_stored made).2]⟩
  | delete id =>
    simp only [CacheAccess.serve]
    refine ⟨fun _ given => (delete_others given).1, fun other given stored => ?_,
      fun _ _ there => .inl there, ?_⟩
    · by_cases same : other = id
      · subst same
        cases deleted : (CacheBackend.delete before.backend other).1 with
        | ok => exact .inr rfl
        | error error =>
          -- A deletion that failed had nothing to delete.
          simp [CacheState.shelf, refuses _ _ _ deleted] at stored
      · exact .inl ((congrArg Option.isSome ((delete_others given).2 same)).trans stored)
    · cases (CacheBackend.delete before.backend id).1 <;> trivial

/-- Entries with identifiers of their own that all lead to objects agree with the storage. -/
theorem shelfAgrees_nil {ι : Type} {cache : CacheState σ} (separate : cache.Separate)
    (stored : cache.AllStored) :
    ShelfAgrees act ([] : Trace CacheAccess CacheAccess.Value ι) cache.shelf := by
  -- A name on the shelf is the identifier of an entry in the index.
  have entry : ∀ {place : CachePlace} {id : Nat}, cache.shelf.named place = some id →
      ∃ entry, cache.findEntry place.2 place.1 = some entry ∧ entry.storageId = id :=
    fun named => Option.map_eq_some_iff.mp named
  refine .nil (fun place id named => ?_) (fun place other id named again => ?_)
    fun place id named => ?_
  · obtain ⟨_, found, rfl⟩ := entry named
    exact separate.given _ _ _ found
  · obtain ⟨_, found, rfl⟩ := entry named
    obtain ⟨_, also, same⟩ := entry again
    obtain ⟨kind, key⟩ := separate.apart _ _ _ _ _ _ found also same.symm
    exact Prod.ext kind key
  · obtain ⟨_, found, rfl⟩ := entry named
    exact stored _ _ _ found

end

/-! The calls take from its place whatever they delete. -/

section

open Program

variable {past : List (Exchange CacheAccess CacheAccess.Value)}

/-- An access that enters no name and deletes nothing. -/
def CacheAccess.Harmless : CacheAccess → Prop
  | .insertEntry _ _ | .removeIfStored _ _ _ | .delete _ => False
  | _ => True

theorem CacheAccess.Harmless.quiet {what : CacheAccess} (harmless : what.Harmless) :
    Quiet act what := by
  intro answer
  cases what with
  | insertEntry | removeIfStored | delete => exact harmless.elim
  | evictIfStored | write => cases answer <;> exact ⟨fun _ => trivial, rfl⟩
  | _ => exact ⟨fun _ => trivial, rfl⟩

theorem access_finishes {what : CacheAccess} (harmless : what.Harmless := by trivial) :
    Finishes act (access what) := finishes_of_quiet (only_perform harmless.quiet)

theorem checked_finishes {α : Type} (result : Except String α) :
    Finishes act (checked result).run := finishes_pure result

theorem findEntry_follows (clear : Clear act past) (key : CacheKey) (kind : CacheCategory) :
    (findEntry key kind).Follows (shelving act) (fun found later => Clear act later ∧
      ∀ entry, found = some entry → Saw act later (kind, key) entry.storageId) past := by
  apply follows_bind
  refine follows_perform (fun _ => trivial) fun index _ => ⟨clear.concat rfl, fun entry found => ?_⟩
  refine ⟨_, List.mem_concat_self, _, rfl, ?_⟩
  exact Option.map_eq_some_iff.mpr ⟨entry, found, rfl⟩

theorem findEntry_finishes (key : CacheKey) (kind : CacheCategory) :
    Finishes act (findEntry key kind) :=
  fun _ clear => (findEntry_follows clear key kind).mono fun _ _ met => met.1

/-- What no place names any more may be deleted. -/
theorem delete_follows (clear : Clear act past) {id : Nat} (gone : Gone act past id) :
    (access (.delete id)).Follows (shelving act) (fun _ later => Clear act later) past := by
  refine follows_perform (fun answer => ?_) fun answer _ => ?_
  · cases answer with
    | error => trivial
    | ok => exact ⟨clear, .inr gone⟩
  · cases answer with
    | error => exact clear.concat rfl
    | ok => exact gone.clear_destroyed rfl

/-- What is deleted by the name in its place is then taken from that place. -/
theorem deleteEntry_finishes (key : CacheKey) (kind : CacheCategory) :
    Finishes act (deleteEntry key kind).run := by
  intro past clear
  refine follows_try (follows_lift ((findEntry_follows clear key kind).mono ?_))
  rintro found seen ⟨clear, saw⟩
  cases found with
  | none => exact clear
  | some entry =>
    -- The identifier to delete was read from the index, and it is struck off once its file is gone.
    have saw := saw entry rfl
    refine follows_try (follows_perform (fun answer => ?_) fun answer _ => ?_)
    · cases answer with
      | error => trivial
      | ok => exact ⟨clear, .inl ⟨_, saw⟩⟩
    · cases answer with
      | error => exact clear.concat rfl
      | ok =>
        exact follows_lift (follows_perform
          (fun _ => ⟨saw.mono (List.subset_append_left _ _), (owed_concat _).trans rfl⟩)
          fun _ _ => clear_settled rfl)

theorem deleteAll_finishes (kind : CacheCategory) (keys : List CacheKey) :
    Finishes act (deleteAll kind keys) := by
  induction keys with
  | nil => exact finishes_pure ()
  | cons key rest ih => exact (deleteEntry_finishes key kind).bind fun _ => ih

theorem reclaimExpiredRestoredExcept_finishes (skip : Option CacheKey) :
    Finishes act (reclaimExpiredRestoredExcept skip) := by
  refine Finishes.bind access_finishes fun now => ?_
  exact Finishes.bind access_finishes fun index => deleteAll_finishes _ _

variable (svc : CacheService)

theorem effectiveTotalCapacity_finishes : Finishes act (effectiveTotalCapacity svc).run := by
  refine finishes_try (finishes_lift access_finishes) fun index => ?_
  exact finishes_try access_finishes fun available => finishes_pure _

/-- A victim is taken from its place before it is deleted. -/
theorem evictRounds_finishes (incomingSize : Nat) (kind : CacheCategory) (totalCapacity : Nat)
    (rounds : Nat) :
    Finishes act (evictRounds svc incomingSize kind totalCapacity rounds).run := by
  induction rounds with
  | zero => exact finishes_pure _
  | succ rounds ih =>
    -- The three readings of a round change nothing, so every way out before the eviction is clear.
    refine finishes_try (finishes_lift access_finishes) fun (index : CacheIndex) => ?_
    dsimp only
    split
    · exact finishes_pure _
    refine finishes_try (finishes_lift access_finishes) fun (index : CacheIndex) => ?_
    split
    · exact finishes_pure _
    refine finishes_try (finishes_lift access_finishes) fun (index : CacheIndex) => ?_
    split
    · exact finishes_pure _
    · rename_i victimCategory _ _ key victim _
      intro past clear
      have quiet : Quiet act (.evictIfStored victimCategory key victim) :=
        CacheAccess.Harmless.quiet trivial
      refine follows_try (follows_lift (follows_perform (fun answer => (quiet answer).1 past)
        fun evicted _ => ?_))
      have still : Clear act (past ++ [⟨.evictIfStored victimCategory key victim, evicted⟩]) :=
        clear.concat (quiet evicted).2
      cases evicted with
      | false => exact ih _ still
      | true =>
        -- The victim left the index first, so its file may be deleted.
        have gone : Gone act (past ++ [⟨.evictIfStored victimCategory key victim, true⟩])
            victim.storageId := ⟨_, List.mem_concat_self, .inl ⟨_, rfl⟩⟩
        refine follows_try (follows_lift ((delete_follows still gone).mono ?_))
        intro deleted later clear
        cases deleted with
        | ok => exact ih _ clear
        | error error =>
          -- A victim whose file stays is put back into the index.
          have puts : Finishes act (access (.putBack victimCategory key victim)) := access_finishes
          exact finishes_try (finishes_lift puts) (fun _ => finishes_pure _) later clear

theorem evictIfNeeded_finishes (incomingSize : Nat) (kind : CacheCategory) :
    Finishes act (evictIfNeeded svc incomingSize kind).run := by
  simp only [evictIfNeeded]
  split
  · exact finishes_pure _
  refine finishes_try (effectiveTotalCapacity_finishes svc) fun totalCapacity => ?_
  refine finishes_try (checked_finishes _) fun _ => ?_
  refine finishes_try (evictRounds_finishes svc _ _ _ _) fun fits => ?_
  split
  · exact finishes_pure _
  · refine finishes_try (finishes_lift access_finishes) fun index => ?_
    exact checked_finishes _

theorem makeRoom_finishes (key : CacheKey) (xattrs : CacheXattrs) :
    Finishes act (makeRoom svc key xattrs).run := by
  refine finishes_try (effectiveTotalCapacity_finishes svc) fun totalCapacity => ?_
  refine finishes_try (checked_finishes _) fun _ => ?_
  refine finishes_try (finishes_lift (findEntry_finishes _ _)) fun existing => ?_
  refine finishes_try (finishes_lift (reclaimExpiredRestoredExcept_finishes _)) fun _ => ?_
  exact evictIfNeeded_finishes svc _ _

/-- What is entered was just stored, and no place names what it replaces. -/
theorem storeLocked_follows (clear : Clear act past) (key : CacheKey) (data : Bytes)
    (xattrs : CacheXattrs) :
    (storeLocked svc key data xattrs).run.Follows (shelving act)
      (fun result later => Clear act later ∧ ∀ storageId previous,
        result = .ok (storageId, some previous) → Gone act later previous.storageId) past := by
  refine follows_try ((makeRoom_finishes svc key xattrs past clear).mono ?_)
  intro result later clear
  cases result with
  | error error => exact ⟨clear, fun _ _ failed => by cases failed⟩
  | ok =>
    -- The file is written before its entry, under an identifier that no entry has.
    refine follows_try (follows_perform (fun answer => ?_) fun answer _ => ?_)
    · cases answer <;> trivial
    cases answer with
    | error error => exact ⟨clear.concat rfl, fun _ _ failed => by cases failed⟩
    | ok storageId =>
      refine follows_try (follows_lift (follows_perform (fun _ => ?_) fun replaced _ => ?_))
      · exact (fresh_concat _).trans rfl
      · refine ⟨(clear.concat rfl).concat rfl, ?_⟩
        rintro _ previous ⟨⟩
        -- What the new entry replaced is out of the index from here on.
        exact ⟨_, List.mem_concat_self, .inr ⟨_, _, rfl⟩⟩

/-- A replaced object is deleted once its place names another one. -/
theorem deleteReplaced_follows (clear : Clear act past) (storageId : Nat)
    {replaced : Option StoredEntry}
    (gone : ∀ previous, replaced = some previous → Gone act past previous.storageId) :
    (deleteReplaced storageId replaced).Follows (shelving act) (fun _ later => Clear act later)
      past := by
  cases replaced with
  | none => exact clear
  | some previous =>
    simp only [deleteReplaced]
    split
    · exact follows_bind ((delete_follows clear (gone previous rfl)).mono fun _ _ clear => clear)
    · exact clear

theorem putBytes_finishes (key : CacheKey) (data : Bytes) (xattrs : CacheXattrs) :
    Finishes act (putBytes svc key data xattrs).run := by
  refine finishes_try (finishes_lift access_finishes) fun _ => ?_
  intro past clear
  refine follows_try (follows_lift ((storeLocked_follows svc clear key data xattrs).mono ?_))
  rintro stored later ⟨clear, gone⟩
  refine follows_try (follows_lift (follows_perform (fun _ => trivial) fun _ _ => ?_))
  cases stored with
  | error error => exact clear.concat rfl
  | ok entered =>
    -- The replaced file is deleted after the lock is released, when no entry names it.
    obtain ⟨storageId, replaced⟩ := entered
    refine follows_try (follows_lift ((deleteReplaced_follows (clear.concat rfl) storageId ?_).mono
      fun _ _ clear => clear))
    rintro previous rfl
    exact (gone storageId previous rfl).mono (List.subset_append_left _ _)

theorem readRestored_finishes (key : CacheKey) : Finishes act (readRestored key) := by
  refine (findEntry_finishes key .restored).bind fun found => ?_
  cases found with
  | none => exact Finishes.bind access_finishes fun _ => finishes_pure _
  | some entry =>
    refine Finishes.bind access_finishes fun (now : Int) => ?_
    split
    · refine (deleteEntry_finishes key .restored).bind fun _ => ?_
      exact Finishes.bind access_finishes fun _ => finishes_pure _
    · refine Finishes.bind access_finishes fun now => ?_
      refine Finishes.bind access_finishes fun _ => ?_
      exact Finishes.bind access_finishes fun _ => finishes_pure _

theorem contains_finishes (key : CacheKey) : Finishes act (contains key) := by
  refine (findEntry_finishes key .restored).bind fun found => ?_
  cases found with
  | none => exact Finishes.bind access_finishes fun _ => finishes_pure _
  | some entry =>
    refine Finishes.bind access_finishes fun (now : Int) => ?_
    split
    · refine (deleteEntry_finishes key .restored).bind fun _ => ?_
      exact Finishes.bind access_finishes fun _ => finishes_pure _
    · exact Finishes.bind access_finishes fun _ => finishes_pure _

/-- No call leaves a deleted object in its place. -/
theorem start_finishes (req : CacheRequest) : Finishes act (start svc req) := by
  cases req with
  | putBytes key data xattrs => exact (putBytes_finishes svc key data xattrs).map _
  | deleteEntry key kind => exact (deleteEntry_finishes key kind).map _
  | readRestored key => exact (readRestored_finishes key).map _
  | contains key => exact (contains_finishes key).map _

end

end Stepwise

end ColdStore
