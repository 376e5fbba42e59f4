import ColdStore.Cache.Naming
import ColdStore.Proofs.CacheRuns

/-! However calls interleave, entries lead to objects again once all calls have returned. -/

namespace ColdStore.Stepwise

open Rust Process CacheService

section

variable {σ : Type} [CacheBackend σ] [StorageLaws σ] (svc : CacheService) (clock : Nat → Int)

/--
Once all calls have returned, every entry leads to an object in storage.

Calls interleave at every access, and only the deletion of a missing object fails. No victim may
have been put back, since its object can be gone by then.
-/
theorem entries_stored_after_calls (refuses : RefusesMissing σ) {w : CacheWorld σ}
    (separate : w.cache.Separate) (stored : w.cache.AllStored) (events : List (Event CacheRequest))
    (forward : ∀ entry ∈ Config.trace (machine clock) (start svc) ⟨w, []⟩ events,
      ¬ entry.exchange.1.RollsBack)
    (ended : (Config.after (machine clock) (start svc) ⟨w, []⟩ events).Ended) :
    (Config.after (machine clock) (start svc) ⟨w, []⟩ events).world.cache.AllStored := by
  intro kind key entry found
  -- Every access that is not a roll-back acts on the shelf as its name says.
  have does : ∀ access (w : CacheWorld σ), ¬ access.RollsBack →
      w.cache.shelf.Does (((machine clock).serve access w).2.cache).shelf
        (act ⟨access, ((machine clock).serve access w).1⟩) :=
    fun access w forward => serve_does refuses (clock w.tick) forward
  have named : (Config.after (machine clock) (start svc) ⟨w, []⟩
      events).world.cache.shelf.named (kind, key) = some entry.storageId :=
    Option.map_eq_some_iff.mpr ⟨entry, found, rfl⟩
  exact stored_of_finished (fun w : CacheWorld σ => w.cache.shelf) does
    (start_finishes svc) (shelfAgrees_nil separate stored) events forward ended named

end

/-- The call that writes a restored object. -/
def puts (key : String) (size : Nat) : CacheRequest :=
  .putBytes (keyOf key) (List.replicate size 0) (attributesOf key size 1 .restored)

/--
An object is written, and its deletion and a write that evicts it meet.

The deletion has read the entry, and the write has taken the entry out of the index.
-/
def overlappingCalls : List (Event CacheRequest) :=
  [.spawn (puts "a" 40)] ++ List.replicate 12 (.step 0) ++
    [.spawn (.deleteEntry (keyOf "a") .restored), .spawn (puts "b" 20), .step 1] ++
      List.replicate 12 (.step 2)

/-- What has become of an empty cache after these calls and some more. -/
def afterOverlap (rest : List (Event CacheRequest)) :
    Config CacheAccess CacheAccess.Value (CacheWorld HddBackend) CacheRequest CacheOutcome :=
  Config.after (machine fun _ => 1) (start (.even 100)) ⟨⟨emptyCache, false, 0⟩, []⟩
    (overlappingCalls ++ rest)

theorem emptyCache_separate : emptyCache.Separate where
  given kind key entry found := by cases kind <;> cases found
  apart kind key entry _ _ _ found := by cases kind <;> cases found

theorem emptyCache_allStored : emptyCache.AllStored := by
  intro kind key entry found
  cases kind <;> cases found

/-- The write deletes the object first, and the deletion finds nothing to delete. -/
theorem entries_stored_after_eviction :
    let config := afterOverlap ([.step 2, .step 1] ++ List.replicate 4 (.step 2))
    config.Ended ∧ config.world.cache.index.restored.len = 1 ∧ config.world.cache.AllStored := by
  have ended : (afterOverlap ([.step 2, .step 1] ++ List.replicate 4 (.step 2))).Ended := by
    decide +kernel
  refine ⟨ended, by decide +kernel, ?_⟩
  exact entries_stored_after_calls (.even 100) (fun _ => 1) refusesMissing_hdd emptyCache_separate
    emptyCache_allStored _ (by decide +kernel) ended

/-- The deletion deletes the object first, and the write puts back an entry that leads nowhere. -/
theorem entry_left_dangling :
    let config := afterOverlap ([.step 1, .step 1] ++ List.replicate 3 (.step 2))
    config.Ended ∧ config.world.cache.index.names (.restored, keyOf "a") = some 1 ∧
      config.world.cache.backend.files.get 1 = none ∧ ¬ config.world.cache.AllStored := by
  have dangles :
      let config := afterOverlap ([.step 1, .step 1] ++ List.replicate 3 (.step 2))
      config.Ended ∧ config.world.cache.index.names (.restored, keyOf "a") = some 1 ∧
        config.world.cache.backend.files.get 1 = none := by decide +kernel
  obtain ⟨ended, named, missing⟩ := dangles
  refine ⟨ended, named, missing, fun all => ?_⟩
  -- The entry is there and its file is not, so not all entries are stored.
  obtain ⟨entry, found, same⟩ := Option.map_eq_some_iff.mp named
  have stored := all .restored (keyOf "a") entry found
  have absent := congrArg (Option.map HddFile.data) missing
  rw [same] at stored
  cases absent.symm.trans (Option.eq_some_of_isSome stored)

end ColdStore.Stepwise
