import ColdStore.Cache.Eviction
import ColdStore.Cache.Separation

/-! Which restored objects are given up when room is made for another one, and which are spared. -/

namespace ColdStore

open Rust CacheIndex

namespace CacheService

variable (svc : CacheService)

/-- The restored entries that go first in the order of the policy, at most as many as asked for. -/
def firstOut : Nat → CacheIndex → List (CacheKey × StoredEntry)
  | 0, _ => []
  | count + 1, index =>
    match svc.selectEvictionCandidate index .restored with
    | none => []
    | some victim => victim :: firstOut count (index.removeEntry .restored victim.1)

/-- A limit would be passed by a restored object, but not the one of the staging share. -/
def Presses (incomingSize totalCapacity : Nat) (index : CacheIndex) : Prop :=
  let pressure := svc.pressureWith incomingSize .restored totalCapacity index
  shouldEvict pressure = true ∧ pressure.stagingPressure = false

instance (incomingSize totalCapacity : Nat) (index : CacheIndex) :
    Decidable (svc.Presses incomingSize totalCapacity index) := inferInstanceAs (Decidable (_ ∧ _))

/-- An object is among those that go first, and all that go before it do not free enough room. -/
def InTheWay (incomingSize totalCapacity count : Nat) (index : CacheIndex) (key : CacheKey) :
    Prop := ∃ earlier victim later, svc.firstOut count index = earlier ++ (key, victim) :: later ∧
    ∀ part, part <+: earlier → svc.Presses incomingSize totalCapacity (index.dropRestored part)

section

variable {svc} {incomingSize totalCapacity count : Nat} {index : CacheIndex} {key : CacheKey}

/-- An object is in the way if it goes first, or once the first one is gone. -/
theorem inTheWay_succ {victim : CacheKey × StoredEntry}
    (selected : svc.selectEvictionCandidate index .restored = some victim) :
    svc.InTheWay incomingSize totalCapacity (count + 1) index key ↔
      svc.Presses incomingSize totalCapacity index ∧ (victim.1 = key ∨
        svc.InTheWay incomingSize totalCapacity count
          (index.removeEntry .restored victim.1) key) := by
  have order : svc.firstOut (count + 1) index =
      victim :: svc.firstOut count (index.removeEntry .restored victim.1) := by
    simp only [firstOut, selected]
  constructor
  · rintro ⟨earlier, entry, later, split, presses⟩
    refine ⟨presses [] List.nil_prefix, ?_⟩
    rw [order] at split
    -- Either nothing goes before the object, or the victim does.
    cases earlier with
    | nil => exact .inl (congrArg Prod.fst (List.cons.inj split).1)
    | cons first rest =>
      obtain ⟨rfl, others⟩ := List.cons.inj split
      exact .inr ⟨rest, entry, later, others, fun part before =>
        presses (victim :: part) (List.prefix_cons_inj victim |>.mpr before)⟩
  · rintro ⟨pressed, rfl | ⟨earlier, entry, later, split, presses⟩⟩
    · refine ⟨[], victim.2, _, order, fun part before => ?_⟩
      rw [List.prefix_nil.mp before]
      exact pressed
    · refine ⟨victim :: earlier, entry, later, by rw [order, split, List.cons_append], ?_⟩
      intro part before
      obtain rfl | ⟨rest, rfl, inside⟩ := List.prefix_cons_iff.mp before
      · exact pressed
      · exact presses rest inside

/-- Room is short if an object is in the way. -/
theorem InTheWay.presses (reached : svc.InTheWay incomingSize totalCapacity count index key) :
    svc.Presses incomingSize totalCapacity index := by
  obtain ⟨_, _, _, _, presses⟩ := reached
  exact presses [] List.nil_prefix

/-- Only objects that go first are in the way. -/
theorem InTheWay.mem_firstOut (reached : svc.InTheWay incomingSize totalCapacity count index key) :
    key ∈ (svc.firstOut count index).map Prod.fst := by
  obtain ⟨earlier, victim, later, split, _⟩ := reached
  simp [split]

/-- Counts of evictions do not matter to the order. -/
theorem firstOut_counting (removed : List (CacheKey × StoredEntry)) :
    svc.firstOut count (index.counting removed) = svc.firstOut count index := by
  induction count generalizing index with
  | zero => rfl
  | succ count ih =>
    have same : svc.selectEvictionCandidate (index.counting removed) .restored =
        svc.selectEvictionCandidate index .restored := rfl
    simp only [firstOut, same]
    split
    · rfl
    · exact congrArg _ (@ih (index.removeEntry .restored _))

theorem inTheWay_counting (removed : List (CacheKey × StoredEntry)) :
    svc.InTheWay incomingSize totalCapacity count (index.counting removed) key ↔
      svc.InTheWay incomingSize totalCapacity count index key := by
  simp only [InTheWay, firstOut_counting, dropRestored_counting]
  rfl

section

open CacheState StorageLaws

variable {σ : Type} [CacheBackend σ] {s : CacheState σ} {svc : CacheService}
  {incomingSize totalCapacity rounds : Nat} {key place : CacheKey}

/-- Without pressure on the restored objects a round does nothing. -/
theorem evictRounds_calm (calm : ¬ svc.Presses incomingSize totalCapacity s.index) :
    (svc.evictRounds incomingSize .restored totalCapacity (rounds + 1) s).2 = s := by
  simp only [evictRounds]
  split
  · rfl
  · rename_i pressed
    -- Nothing is evicted for the staging share.
    have staging : (svc.pressureWith incomingSize .restored totalCapacity
        s.index).stagingPressure = true := by
      simp only [Presses, not_and, Bool.not_eq_false] at calm
      exact calm (by simpa using pressed)
    simp only [chooseVictimCategory, staging, if_true]

/-- Under pressure a round evicts the first of the restored objects. -/
theorem evictRounds_pressed (rounds : Nat)
    (presses : svc.Presses incomingSize totalCapacity s.index)
    {entry : StoredEntry} (found : s.findEntry key .restored = some entry) :
    ∃ victim, svc.selectEvictionCandidate s.index .restored = some victim ∧
      s.index.restored.get victim.1 = some victim.2 ∧
      svc.evictRounds incomingSize .restored totalCapacity (rounds + 1) s =
        match evict s .restored victim.1 victim.2 with
        | (.ok (), after) =>
          svc.evictRounds incomingSize .restored totalCapacity rounds after
        | (.error error, after) => (some (.error error), after) := by
  have listed := (HashMap.mem_entries s.index.restored key entry).mpr found
  have chosen : chooseVictimCategory (svc.pressureWith incomingSize .restored totalCapacity
      s.index) s.index = some .restored := by
    have pressed := presses.1
    simp only [shouldEvict, presses.2, Bool.false_or] at pressed
    have filled : s.index.restored.isEmpty = false := by
      simpa [HashMap.isEmpty] using List.ne_nil_of_mem listed
    simp only [chooseVictimCategory, presses.2, filled, pressed]
    rfl
  cases selected : svc.selectEvictionCandidate s.index .restored with
  | none =>
    -- There is an object, so one of them comes first.
    simp only [selectEvictionCandidate] at selected
    split at selected <;> exact absurd (minByKey_eq_none.mp selected) (List.ne_nil_of_mem listed)
  | some victim =>
    have there := svc.selectEvictionCandidate_found selected
    have still : s.index.stillStored .restored victim.1 victim.2.storageId = true := by
      simp [CacheIndex.stillStored, CacheIndex.entries, there]
    refine ⟨victim, rfl, there, ?_⟩
    simp only [evictRounds, presses.1, chosen, selected, still, if_true, Bool.not_true]
    rfl

/-- An object larger than the capacity is refused at once. -/
theorem putBytes_refused {total : Nat} {xattrs : CacheXattrs}
    (capacity : svc.effectiveTotalCapacity s = .ok total)
    (large : total < xattrs.size) (now : Int) (key : CacheKey) (data : Bytes) :
    (svc.putBytes now s key data xattrs).2 = s := by
  simp only [CacheService.putBytes, ensureObjectSizeWithinTotalCapacity, capacity]
  split
  · rfl
  · rename_i fits
    have := (fitsCapacity_ok_iff.mp fits).2
    omega

/-- Deleting one object leaves the entries of all others in the index. -/
theorem deleteEntry_findEntry_ne (ne : key ≠ place) (kind other : CacheCategory) :
    (s.deleteEntry place kind).2.findEntry key other = s.findEntry key other := by
  have removed : ((s.index.removeEntry kind place).entries other).get key =
      (s.index.entries other).get key := by
    rw [CacheIndex.entries_removeEntry]
    split
    · rename_i same
      rw [HashMap.get_remove_ne _ ne, same]
    · rfl
  simp only [deleteEntry]
  -- The index changes only where the deletion succeeds.
  split
  · rfl
  · split
    · rfl
    · split
      · exact removed
      · rfl

variable [StorageLaws σ]

/-- A restored object is in the cache with its data, and all identifiers are apart. -/
structure Holds (key : CacheKey) (entry : StoredEntry) (data : Option Bytes)
    (s : CacheState σ) : Prop where
  separate : s.Separate
  found : s.findEntry key .restored = some entry
  stored : object s.backend entry.storageId = data

variable {s : CacheState σ} {key : CacheKey} {entry : StoredEntry} {data : Option Bytes}

section

variable (holds : Holds key entry data s)

include holds

/-- Deleting another restored object from storage spares this one. -/
theorem Holds.delete {victim : StoredEntry} (found : s.findEntry place .restored = some victim)
    (ne : key ≠ place) :
    object (CacheBackend.delete s.backend victim.storageId).2 entry.storageId = data := by
  refine ((delete_others (holds.separate.given _ _ _ holds.found)).2 fun shared => ?_).trans
    holds.stored
  exact ne (holds.separate.apart _ _ _ _ _ _ holds.found found shared).2

theorem Holds.deleteEntry (ne : key ≠ place) :
    Holds key entry data (s.deleteEntry place .restored).2 where
  separate := by
    have thinned : Thinned (fun _ => False) s (s.deleteEntry place .restored).2 :=
      deleteEntry_thinned holds.separate fun staging => by cases staging
    exact thinned.separate holds.separate
  found := (deleteEntry_findEntry_ne ne _ _).trans holds.found
  -- The victim has another identifier, and its deletion leaves this one's bytes.
  stored := by
    simp only [CacheState.deleteEntry]
    split
    · exact holds.stored
    · rename_i victim found
      have spared := holds.delete found ne
      split <;> rename_i backend deleted <;> rw [deleted] at spared
      · exact spared
      · split <;> exact spared

theorem Holds.deleteAll {keys : List CacheKey} (outside : key ∉ keys) :
    Holds key entry data (s.deleteAll .restored keys) := by
  induction keys generalizing s with
  | nil => exact holds
  | cons place rest ih =>
    simp only [List.mem_cons, not_or] at outside
    exact ih (holds.deleteEntry outside.1) outside.2

/-- Evicting another restored object spares this one, whether or not its deletion succeeds. -/
theorem Holds.evict {victim : StoredEntry} (found : s.index.restored.get place = some victim)
    (ne : key ≠ place) : Holds key entry data (evict s .restored place victim).2 where
  separate := by
    have thinned : Thinned (fun _ => False) s _ := evict_thinned holds.separate found
    exact thinned.separate holds.separate
  found := by
    -- The victim leaves the index, and comes back under its own key when it could not be deleted.
    simp only [CacheService.evict]
    split
    · exact (HashMap.get_remove_ne _ ne).trans holds.found
    · exact (HashMap.get_insert_ne _ victim ne).trans
        ((HashMap.get_remove_ne _ ne).trans holds.found)
  stored := by
    have spared := holds.delete found ne
    simp only [CacheService.evict]
    split <;> rename_i backend deleted <;> rw [deleted] at spared <;> exact spared

/-- Rounds of evictions spare an object that is not in the way, whatever the storage does. -/
theorem Holds.evictRounds (spared : ¬ svc.InTheWay incomingSize totalCapacity rounds s.index key) :
    Holds key entry data (svc.evictRounds incomingSize .restored totalCapacity rounds s).2 := by
  induction rounds generalizing s with
  | zero => exact holds
  | succ rounds ih =>
    by_cases presses : svc.Presses incomingSize totalCapacity s.index
    · obtain ⟨victim, selected, found, round⟩ := evictRounds_pressed rounds presses holds.found
      rw [inTheWay_succ selected, not_and_or, not_or] at spared
      obtain ⟨ne, later⟩ := spared.resolve_left (not_not.mpr presses)
      have evicted := holds.evict found (Ne.symm ne)
      rw [round]
      -- A failed eviction ends the rounds, and a successful one leaves fewer in the way.
      split <;> rename_i after result <;> rw [result] at evicted
      · refine ih evicted ?_
        rw [evict_ok result, inTheWay_counting]
        exact later
      · exact evicted
    · rw [evictRounds_calm presses]
      exact holds

/-- Making room spares an object that is not in the way. -/
theorem Holds.evictIfNeeded (spared : ∀ totalCapacity,
      svc.effectiveTotalCapacity s = .ok totalCapacity → 0 < incomingSize →
      incomingSize ≤ totalCapacity →
      ¬ svc.InTheWay incomingSize totalCapacity svc.evictBatchSize s.index key) :
    Holds key entry data (svc.evictIfNeeded s incomingSize .restored).2 := by
  simp only [CacheService.evictIfNeeded]
  split
  · exact holds
  · rename_i some_
    split
    · exact holds
    · rename_i total capacity
      split
      · exact holds
      · rename_i fits
        have within : incomingSize ≤ total := (fitsCapacity_ok_iff.mp fits).2
        have rounds := holds.evictRounds (spared total capacity (Nat.pos_of_ne_zero some_) within)
        split <;> rename_i after ended <;> rw [ended] at rounds <;> exact rounds

/-- Reclaiming expired objects passes over the one that is to be replaced. -/
theorem Holds.reclaimed (now : Int) :
    Holds key entry data (s.reclaimExpiredRestoredExcept now (some key)) := by
  refine holds.deleteAll fun listed => ?_
  obtain ⟨other, chosen, same⟩ := List.mem_map.mp listed
  have spared := (List.mem_filter.mp (List.mem_filter.mp chosen).1).2
  simp [same] at spared

end

end

end

end CacheService

/-! On a disk whose operations succeed, the index before a write tells what is given up for it. -/

/-- The index without the restored objects that have expired, but for one that is passed over. -/
def CacheIndex.unexpired (index : CacheIndex) (now : Int) (key : CacheKey) : CacheIndex :=
  index.dropRestored (index.restored.entries.filter fun entry =>
    isExpiredAt entry.2.xattrs.expireAt now && entry.1 ≠ key)

variable {s : CacheState HddBackend} {key : CacheKey}

namespace CacheState

/-- In a sound cache the entries have identifiers of their own. -/
theorem Sound.separated (sound : s.Sound) : s.Separate where
  given kind key entry found := by
    obtain ⟨file, stored⟩ := sound.present kind key entry found
    exact sound.older _ _ stored
  apart := sound.separate

/-- Deleting restored objects drops their entries. -/
theorem deleteAll_index (sound : s.Sound) {entries : List (CacheKey × StoredEntry)}
    (distinct : (entries.map Prod.fst).Nodup)
    (found : ∀ entry ∈ entries, s.findEntry entry.1 .restored = some entry.2) :
    (s.deleteAll .restored (entries.map Prod.fst)).index =
      s.index.dropRestored entries := by
  induction entries generalizing s with
  | nil => rfl
  | cons entry rest ih =>
    obtain ⟨fresh, others⟩ := List.nodup_cons.mp distinct
    have first := found entry List.mem_cons_self
    have left := (deleteEntry_found sound first).2.sound sound
    -- The entries that come later are still there, since they have other keys.
    have later : ∀ other ∈ rest,
        (s.deleteEntry entry.1 .restored).2.findEntry other.1 .restored = some other.2 := by
      intro other mem
      have ne : other.1 ≠ entry.1 := fun same =>
        fresh (same ▸ List.mem_map_of_mem mem)
      exact (CacheService.deleteEntry_findEntry_ne ne _ _).trans
        (found other (List.mem_cons_of_mem _ mem))
    have dropped : (s.deleteEntry entry.1 .restored).2.index =
        s.index.removeEntry .restored entry.1 := by rw [deleteEntry_eq sound first]
    exact (ih left others later).trans (congrArg (dropRestored · rest) dropped)

/-- Reclaiming leaves the index without what has expired. -/
theorem reclaim_index (sound : s.Sound) (now : Int) (key : CacheKey) :
    (s.reclaimExpiredRestoredExcept now (some key)).index = s.index.unexpired now key := by
  have expired : ((s.index.restored.entries.filter fun entry => some key ≠ some entry.1).filter
      fun entry => isExpiredAt entry.2.xattrs.expireAt now) =
      s.index.restored.entries.filter fun entry =>
        isExpiredAt entry.2.xattrs.expireAt now && entry.1 ≠ key := by
    rw [List.filter_filter]
    simp only [ne_eq, Option.some.injEq, eq_comm]
  simp only [reclaimExpiredRestoredExcept, expired]
  refine deleteAll_index sound ?_ fun entry mem =>
    (HashMap.mem_entries _ _ _).mp (List.mem_filter.mp mem).1
  exact List.Nodup.sublist (List.filter_sublist.map _) s.index.restored.nodup

end CacheState

namespace CacheService

open CacheState

variable {svc : CacheService} {entry : StoredEntry}

/-- Rounds of evictions come to an object that is in the way. -/
theorem evictRounds_gone {incomingSize totalCapacity rounds : Nat} (sound : s.Sound)
    (found : s.findEntry key .restored = some entry)
    (reached : svc.InTheWay incomingSize totalCapacity rounds s.index key) :
    (svc.evictRounds incomingSize .restored totalCapacity rounds s).2.findEntry key
      .restored = none := by
  induction rounds generalizing s with
  | zero => exact absurd reached.mem_firstOut (by simp [firstOut])
  | succ rounds ih =>
    obtain ⟨victim, selected, there, round⟩ := evictRounds_pressed rounds reached.presses found
    obtain ⟨ok, dropped⟩ := evict_dropped sound there
    have evicted : evict s .restored victim.1 victim.2 =
      (.ok (), (evict s .restored victim.1 victim.2).2) := Prod.ext ok rfl
    have left := dropped.sound sound
    rw [round, evicted]
    by_cases same : key = victim.1
    · -- What is gone does not come back.
      have upheld : Upheld (Thinned (fun _ => False) (evict s .restored victim.1 victim.2).2) :=
        Thinned.upheld left.separated
      refine Option.eq_none_iff_forall_ne_some.mpr fun entry there => ?_
      obtain ⟨old, was, _⟩ := (upheld.evictRounds svc (.refl _) _ _ _ _).older _ _ _ there
      rw [dropped.findEntry, if_pos ⟨rfl, same⟩] at was
      cases was
    · have later := ((inTheWay_succ selected).mp reached).2.resolve_left (Ne.symm same)
      rw [← inTheWay_counting [victim], ← evict_ok evicted] at later
      refine ih left ?_ later
      rw [dropped.findEntry, if_neg fun both => same both.2]
      exact found

/-- Making room for more bytes on a disk of some size comes to an object of an index. -/
structure MakesWay (svc : CacheService) (storageBytes incomingSize : Nat) (index : CacheIndex)
    (key : CacheKey) : Prop where
  incoming : 0 < incomingSize
  fits : incomingSize ≤ svc.capacityBeside storageBytes index.usedCapacity
  inTheWay : svc.InTheWay incomingSize (svc.capacityBeside storageBytes index.usedCapacity)
    svc.evictBatchSize index key

/-- Room is made by giving up an object that has to make way. -/
theorem evictIfNeeded_gone {incomingSize : Nat} (accounted : s.Accounted)
    (found : s.findEntry key .restored = some entry)
    (way : svc.MakesWay s.backend.maxSizeBytes incomingSize s.index key) :
    (svc.evictIfNeeded s incomingSize .restored).2.findEntry key .restored = none := by
  have fits := fitsCapacity_ok_iff.mpr ⟨way.incoming.trans_le way.fits, way.fits⟩
  have gone := evictRounds_gone accounted.toSound found way.inTheWay
  simp only [evictIfNeeded, if_neg way.incoming.ne', effectiveTotalCapacity_counted accounted, fits]
  split <;> rename_i after ended <;> rw [ended] at gone <;> exact gone

/--
A write gives up the restored object that it is to replace.

It takes more room than that object does and is not refused at once, and when what has expired is
gone, that object is in the way of what is added.
-/
structure GivesUp (svc : CacheService) (now : Int) (s : CacheState HddBackend)
    (key : CacheKey) (xattrs : CacheXattrs) : Prop where
  restored : xattrs.category = .restored
  admitted : xattrs.size ≤ svc.capacityBeside s.backend.maxSizeBytes s.index.usedCapacity
  way : svc.MakesWay s.backend.maxSizeBytes (capacityDelta s key xattrs)
    (s.index.unexpired now key) key

/-- The new object has bytes. -/
theorem GivesUp.positive {now : Int} {xattrs : CacheXattrs}
    (gives : svc.GivesUp now s key xattrs) : 0 < xattrs.size :=
  gives.way.incoming.trans_le (Nat.sub_le _ _)

open StorageLaws

section

variable {now : Int} {xattrs : CacheXattrs} (accounted : s.Accounted)
  (found : s.findEntry key .restored = some entry)

include accounted found

/-- The object that a write is to replace is still there once room was made, if not given up. -/
theorem holds_of_not_givesUp (restored : xattrs.category = .restored)
    (admitted : xattrs.size ≤ svc.capacityBeside s.backend.maxSizeBytes s.index.usedCapacity)
    (spared : ¬ svc.GivesUp now s key xattrs) :
    Holds key entry (object s.backend entry.storageId)
      (svc.evictIfNeeded (s.reclaimExpiredRestoredExcept now (some key))
        (capacityDelta s key xattrs) .restored).2 := by
  have holds : Holds key entry (object s.backend entry.storageId) s :=
    ⟨accounted.toSound.separated, found, rfl⟩
  have cleared := reclaim_cleared accounted now (some key)
  refine (holds.reclaimed now).evictIfNeeded fun total capacity incoming fits reached => ?_
  -- What is used and free after the reclaim is told by the index before it.
  rw [effectiveTotalCapacity_counted cleared.accounted, cleared.maxSizeBytes,
    reclaim_index accounted.toSound] at capacity
  rw [reclaim_index accounted.toSound] at reached
  cases capacity
  exact spared ⟨restored, admitted, incoming, fits, reached⟩

/-- An object that is given up is gone once room was made. -/
theorem GivesUp.gone (gives : svc.GivesUp now s key xattrs) :
    (svc.evictIfNeeded (s.reclaimExpiredRestoredExcept now (some key))
      (capacityDelta s key xattrs) .restored).2.findEntry key .restored = none := by
  have holds : Holds key entry (object s.backend entry.storageId) s :=
    ⟨accounted.toSound.separated, found, rfl⟩
  have cleared := reclaim_cleared accounted now (some key)
  refine evictIfNeeded_gone cleared.accounted (holds.reclaimed now).found ?_
  rw [cleared.maxSizeBytes, reclaim_index accounted.toSound]
  exact gives.way

end

end CacheService

end ColdStore
