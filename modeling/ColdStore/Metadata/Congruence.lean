import ColdStore.Metadata.ObjectChanges
import Mathlib.Algebra.BigOperators.Group.List.Basic

/-! Two copies of the catalogue that differ in iteration order answer a command alike. -/

namespace ColdStore

open Rust

/-- The object a command changes by being the latest version of a key. -/
def MetadataCommand.latestTarget : MetadataCommand → Option (String × String)
  | .updateStorageClass req => some (req.bucket, req.key)
  | .updateArchiveLocation req => some (req.bucket, req.key)
  | .updateRestoreStatus req => some (req.bucket, req.key)
  | .completeArchiveObject req =>
    if req.versionId.isNone then some (req.bucket, req.key) else none
  | _ => none

namespace MetadataState

theorem equiv_refl (s : MetadataState) : s ≈ s := by
  constructor <;> exact HashMap.equiv_refl _

theorem equiv_symm {left right : MetadataState} (same : left ≈ right) : right ≈ left where
  objects := HashMap.equiv_symm same.objects
  buckets := HashMap.equiv_symm same.buckets
  archiveBundles := HashMap.equiv_symm same.archiveBundles
  archiveTasks := HashMap.equiv_symm same.archiveTasks
  recallTasks := HashMap.equiv_symm same.recallTasks
  tapes := HashMap.equiv_symm same.tapes
  schedulerWorkers := HashMap.equiv_symm same.schedulerWorkers
  cacheWorkers := HashMap.equiv_symm same.cacheWorkers
  tapeWorkers := HashMap.equiv_symm same.tapeWorkers

theorem equiv_trans {first second third : MetadataState} (left : first ≈ second)
    (right : second ≈ third) : first ≈ third where
  objects := HashMap.equiv_trans left.objects right.objects
  buckets := HashMap.equiv_trans left.buckets right.buckets
  archiveBundles := HashMap.equiv_trans left.archiveBundles right.archiveBundles
  archiveTasks := HashMap.equiv_trans left.archiveTasks right.archiveTasks
  recallTasks := HashMap.equiv_trans left.recallTasks right.recallTasks
  tapes := HashMap.equiv_trans left.tapes right.tapes
  schedulerWorkers := HashMap.equiv_trans left.schedulerWorkers right.schedulerWorkers
  cacheWorkers := HashMap.equiv_trans left.cacheWorkers right.cacheWorkers
  tapeWorkers := HashMap.equiv_trans left.tapeWorkers right.tapeWorkers

/-- A state without entries equals the state it started as. -/
theorem equiv_default_of_isEmpty {s : MetadataState} (empty : s.isEmpty = true) :
    s ≈ ({} : MetadataState) := by
  simp only [isEmpty, Bool.and_eq_true, HashMap.isEmpty_iff] at empty
  obtain ⟨⟨⟨⟨⟨⟨⟨⟨e1, e2⟩, e3⟩, e4⟩, e5⟩, e6⟩, e7⟩, e8⟩, e9⟩ := empty
  exact ⟨e1, e2, e3, e4, e5, e6, e7, e8, e9⟩

/-- Only one version of a key is the latest. -/
def LatestUnique (s : MetadataState) (bucket key : String) : Prop :=
  ∀ left ∈ versions s bucket key, ∀ right ∈ versions s bucket key,
    timestampSortKey left.2.updatedAt = timestampSortKey right.2.updatedAt →
      (∀ entry ∈ versions s bucket key,
        timestampSortKey entry.2.updatedAt ≤ timestampSortKey left.2.updatedAt) → left = right

/-- A command does not have to choose between versions updated at the same time. -/
def TieFree (s : MetadataState) (cmd : MetadataCommand) : Prop :=
  ∀ bucket key, cmd.latestTarget = some (bucket, key) → s.LatestUnique bucket key

/-- A version of a key that none is later than. -/
def Latest (s : MetadataState) (bucket key : String) (entry : ObjectKey × ObjectMetadata) :
    Prop := entry ∈ versions s bucket key ∧ ∀ other ∈ versions s bucket key,
    timestampSortKey other.2.updatedAt ≤ timestampSortKey entry.2.updatedAt

end MetadataState

/--
A change treats all the latest versions alike that may be found for it.

It refuses them for the same reason, or it leaves them as they are.
-/
def ObjectChange.Decided (change : ObjectChange) (s : MetadataState) : Prop :=
  change.admitted = .ok () → change.versionId = none →
    ∀ left right, s.Latest change.bucket change.key left →
      s.Latest change.bucket change.key right → left ≠ right →
        (∃ status, change.rewrite left.2 = .error status ∧ change.rewrite right.2 = .error status) ∨
        (change.rewrite left.2 = .ok left.2 ∧ change.rewrite right.2 = .ok right.2)

/-- The change that a command makes of an object, if it makes one, is decided. -/
def MetadataState.Decided (clock : Nat) (s : MetadataState) (cmd : MetadataCommand) : Prop :=
  ∀ change, cmd.objectChange (nowTimestamp clock) s.archiveBundles.get = some change →
    change.Decided s

/-! Everything a command computes from a whole map is independent of the order of its entries. -/

variable {left right : MetadataState}

theorem refreshBucketStats_congr (same : left ≈ right) (bucket : String) :
    refreshBucketStats left bucket ≈ refreshBucketStats right bucket := by
  -- Both totals are sums over the same objects in another order.
  have objects := (HashMap.values_perm same.objects).filter fun obj => obj.bucket == bucket
  have count := objects.length_eq
  have total := (objects.map ObjectMetadata.size).sum_eq
  simp only [refreshBucketStats, HashMap.equiv_get same.buckets, count, total]
  split
  · exact same
  · exact { same with buckets := HashMap.update_congr same.buckets _ _ }

theorem storeBundle_congr (same : left ≈ right) (bundle : ArchiveBundle) :
    storeBundle left bundle ≈ storeBundle right bundle := by
  simp only [storeBundle, HashMap.containsKey_of_equiv same.archiveBundles]
  split
  · exact same
  · exact { same with archiveBundles := HashMap.insert_congr same.archiveBundles _ _ }

namespace Applied

/-- The same answer, and the same state up to iteration order. -/
def Same (left right : Applied) : Prop := left.1 = right.1 ∧ left.2 ≈ right.2

variable {left right : MetadataState}

theorem same_given {α : Type} {check other : Except Status α} {rest next : α → Applied}
    (checks : check = other) (states : left ≈ right)
    (continues : ∀ value, check = .ok value → Same (rest value) (next value)) :
    Same (.given check left rest) (.given other right next) := by
  subst checks
  cases checked : check with
  | ok value => exact continues value checked
  | error status => exact ⟨rfl, states⟩

theorem same_ok (states : left ≈ right) : Same (.ok (), left) (.ok (), right) := ⟨rfl, states⟩

theorem same_error (states : left ≈ right) {status : Status} :
    Same (.error status, left) (.error status, right) := ⟨rfl, states⟩

end Applied

/-! The latest of several versions, and the order they are iterated in. -/

section

variable {s : MetadataState} {bucket key : String} {entry : ObjectKey × ObjectMetadata}

/-- A search finds a version if there is one. -/
theorem findObjectMut_cases (s : MetadataState) (bucket key : String) :
    (versions s bucket key = [] ∧
      findObjectMut s bucket key none = .error (.notFound "object not found")) ∨
    ∃ entry ∈ versions s bucket key, findObjectMut s bucket key none = .ok entry := by
  rw [findObjectMut_none]
  cases found : latestVersion s bucket key with
  | none => exact .inl ⟨maxByKey_eq_none.mp found, rfl⟩
  | some entry => exact .inr ⟨entry, (maxByKey_spec found).1, rfl⟩

/-- What is found in any order is a latest version. -/
theorem latest_of_found (same : s.objects ≈ left.objects)
    (found : findObjectMut left bucket key none = .ok entry) : s.Latest bucket key entry := by
  rw [findObjectMut_none, okOr_eq_ok] at found
  have versions : (versions s bucket key).Perm (versions left bucket key) :=
    (HashMap.perm_of_equiv same).filter _
  obtain ⟨mem, above⟩ := maxByKey_spec found
  exact ⟨versions.mem_iff.mpr mem, fun other there => above other (versions.mem_iff.mp there)⟩

/-- Every latest version is found in some order. -/
theorem exists_found_of_latest (latest : s.Latest bucket key entry) :
    ∃ left, s ≈ left ∧ findObjectMut left bucket key none = .ok entry := by
  obtain ⟨mem, above⟩ := latest
  obtain ⟨listed, named⟩ := List.mem_filter.mp mem
  obtain ⟨before, after, split⟩ := List.append_of_mem listed
  -- The version is iterated last, and all others as before.
  have moved : s.objects.entries.Perm (before ++ after ++ [entry]) := by
    rw [split, List.append_assoc]
    exact (List.perm_append_singleton entry after).symm.append_left before
  have nodup := (moved.map Prod.fst).nodup_iff.mp s.objects.nodup
  let left : MetadataState := { s with objects := ⟨before ++ after ++ [entry], nodup⟩ }
  have same : s ≈ left :=
    { MetadataState.equiv_refl s with objects := HashMap.equiv_of_perm moved }
  refine ⟨left, same, ?_⟩
  have others : versions left bucket key = ((before ++ after).filter fun entry =>
      entry.1.bucket == bucket && entry.1.key == key) ++ [entry] := by
    simp only [versions, left, List.filter_append, List.filter_singleton, named, cond_true]
  have versions : (versions s bucket key).Perm (versions left bucket key) := moved.filter _
  rw [others] at versions
  rw [findObjectMut_none, latestVersion, others, maxByKey_concat fun other there =>
    above other (versions.mem_iff.mpr (List.mem_append_left _ there))]
  rfl

end

/-- An object that is written as it was leaves the catalogue as it was. -/
theorem writeObject_stored {s : MetadataState} {place : ObjectKey} {obj : ObjectMetadata}
    (stored : s.objects.get place = some obj) : s.writeObject place obj ≈ s := by
  refine { MetadataState.equiv_refl s with objects := fun other => ?_ }
  simp only [MetadataState.writeObject, HashMap.get_update]
  split
  · rename_i here
    rw [here, stored, Option.map_some]
  · rfl

namespace ObjectChange

open Applied

variable {change : ObjectChange} {s : MetadataState}

theorem bundled_congr (same : left ≈ right) : change.bundled left ≈ change.bundled right := by
  unfold bundled
  cases change.bundle with
  | none => exact same
  | some bundle => exact storeBundle_congr same bundle

/-- A change of what is found treats two copies alike if it treats alike what they find. -/
theorem applied_congr (leftSame : s ≈ left) (rightSame : s ≈ right)
    (decided : change.Decided s) : Same (change.applied left) (change.applied right) := by
  have same := MetadataState.equiv_trans (MetadataState.equiv_symm leftSame) rightSame
  refine same_given rfl same fun _ admitted => ?_
  have bundles : change.bundled left ≈ change.bundled right := bundled_congr same
  have equal : ∀ entry : ObjectKey × ObjectMetadata,
      Same (.given (change.rewrite entry.2) left fun changed =>
          (.ok (), (change.bundled left).writeObject entry.1 changed))
        (.given (change.rewrite entry.2) right fun changed =>
          (.ok (), (change.bundled right).writeObject entry.1 changed)) := fun entry =>
    same_given rfl same fun _ _ => same_ok
      { bundles with objects := HashMap.update_congr bundles.objects _ _ }
  cases version : change.versionId with
  | some versionId =>
    -- One version is asked for by its name.
    refine same_given ?_ same fun entry _ => equal entry
    simp only [findObjectMut, HashMap.equiv_get same.objects]
  | none =>
    have versions : (versions left change.bucket change.key).Perm (versions right _ _) :=
      (HashMap.perm_of_equiv same.objects).filter _
    obtain ⟨none, missing⟩ | ⟨entry, there, first⟩ :=
      findObjectMut_cases left change.bucket change.key <;>
    obtain ⟨none', missing'⟩ | ⟨other, there', second⟩ :=
      findObjectMut_cases right change.bucket change.key
    · rw [missing, missing']
      exact same_error same
    · rw [← versions.mem_iff, none] at there'
      cases there'
    · rw [versions.mem_iff, none'] at there
      cases there
    · rw [first, second]
      simp only [Applied.given_passed]
      by_cases one : entry = other
      · rw [one]
        exact equal other
      · have found := latest_of_found leftSame.objects first
        have found' := latest_of_found rightSame.objects second
        obtain ⟨status, refused, refused'⟩ | ⟨kept, kept'⟩ :=
          decided admitted version entry other found found' one
        · rw [refused, refused']
          exact same_error same
        · -- Each copy writes a version back as it was.
          rw [kept, kept']
          have there := (findObjectMut_stored first).1
          have there' := (findObjectMut_stored second).1
          refine same_ok (MetadataState.equiv_trans (writeObject_stored (by simpa using there)) ?_)
          exact MetadataState.equiv_trans bundles
            (MetadataState.equiv_symm (writeObject_stored (by simpa using there')))

end ObjectChange

open Applied in
/-- Two copies answer a command alike that is not about the latest version of an object. -/
theorem applyCommand_congr_of_others (same : left ≈ right) (clock : Nat) {cmd : MetadataCommand}
    (other : ∀ stored, cmd.objectChange (nowTimestamp clock) stored = none) :
    Same (applyCommand clock left cmd) (applyCommand clock right cmd) := by
  cases cmd with
  | putObject obj =>
    simp only [applyCommand, putObject, HashMap.containsKey_of_equiv same.buckets]
    split
    · apply same_ok
      apply refreshBucketStats_congr
      exact { same with objects := HashMap.insert_congr same.objects _ _ }
    · exact same_error same
  | deleteObject req =>
    simp only [applyCommand, deleteObject, HashMap.containsKey_of_equiv same.objects]
    split
    · apply same_ok
      apply refreshBucketStats_congr
      exact { same with objects := HashMap.remove_congr same.objects _ }
    · exact same_error same
  | updateStorageClass | updateArchiveLocation | completeArchiveObject | updateRestoreStatus =>
    cases other fun _ => none
  | createBucket bucket =>
    simp only [applyCommand, createBucket, HashMap.containsKey_of_equiv same.buckets]
    split
    · exact same_error same
    · exact same_ok { same with buckets := HashMap.insert_congr same.buckets _ _ }
  | deleteBucket req =>
    -- Whether an object of the bucket is left does not depend on where it stands.
    have any : (left.objects.values.any fun obj => obj.bucket == req.name)
        = right.objects.values.any fun obj => obj.bucket == req.name :=
      (HashMap.values_perm same.objects).any_eq
    simp only [applyCommand, deleteBucket, HashMap.containsKey_of_equiv same.buckets, any]
    split
    · exact same_error same
    · split
      · exact same_ok { same with buckets := HashMap.remove_congr same.buckets _ }
      · exact same_error same
  | putArchiveBundle bundle =>
    exact same_ok { same with archiveBundles := HashMap.insert_congr same.archiveBundles _ _ }
  | updateArchiveBundleStatus req =>
    refine same_given (by rw [HashMap.equiv_get same.archiveBundles]) same fun _ _ => ?_
    refine same_given rfl same fun _ _ => ?_
    exact same_ok { same with archiveBundles := HashMap.update_congr same.archiveBundles _ _ }
  | putArchiveTask task =>
    simp only [applyCommand, putArchiveTask, HashMap.equiv_get same.archiveTasks]
    split
    · split
      · exact same_ok same
      · exact same_error same
    · exact same_ok { same with archiveTasks := HashMap.insert_congr same.archiveTasks _ _ }
  | updateArchiveTask task =>
    refine same_given (by rw [HashMap.equiv_get same.archiveTasks]) same fun _ _ => ?_
    refine same_given rfl same fun _ _ => ?_
    exact same_ok { same with archiveTasks := HashMap.insert_congr same.archiveTasks _ _ }
  | putRecallTask task =>
    simp only [applyCommand, putRecallTask, HashMap.equiv_get same.recallTasks]
    split
    · split
      · exact same_ok same
      · exact same_error same
    · exact same_ok { same with recallTasks := HashMap.insert_congr same.recallTasks _ _ }
  | updateRecallTask task =>
    refine same_given (by rw [HashMap.equiv_get same.recallTasks]) same fun _ _ => ?_
    refine same_given rfl same fun _ _ => ?_
    exact same_ok { same with recallTasks := HashMap.insert_congr same.recallTasks _ _ }
  | putTape _ | updateTape _ => exact same_ok { same with tapes := HashMap.insert_congr same.tapes _ _ }
  | registerSchedulerWorker worker =>
    exact same_ok { same with
      schedulerWorkers := HashMap.insert_congr same.schedulerWorkers _ _ }
  | deregisterSchedulerWorker req =>
    exact same_ok { same with schedulerWorkers := HashMap.remove_congr same.schedulerWorkers _ }
  | registerCacheWorker worker =>
    exact same_ok { same with cacheWorkers := HashMap.insert_congr same.cacheWorkers _ _ }
  | deregisterCacheWorker req =>
    exact same_ok { same with cacheWorkers := HashMap.remove_congr same.cacheWorkers _ }
  | registerTapeWorker worker =>
    exact same_ok { same with tapeWorkers := HashMap.insert_congr same.tapeWorkers _ _ }
  | deregisterTapeWorker req =>
    exact same_ok { same with tapeWorkers := HashMap.remove_congr same.tapeWorkers _ }
  | updateWorkerStatus _ | heartbeat _ =>
    simp only [applyCommand, updateWorkerStatus, heartbeat]
    split
    · refine same_given (by rw [HashMap.equiv_get same.schedulerWorkers]) same fun _ _ => ?_
      exact same_ok { same with
        schedulerWorkers := HashMap.update_congr same.schedulerWorkers _ _ }
    · refine same_given (by rw [HashMap.equiv_get same.cacheWorkers]) same fun _ _ => ?_
      exact same_ok { same with cacheWorkers := HashMap.update_congr same.cacheWorkers _ _ }
    · refine same_given (by rw [HashMap.equiv_get same.tapeWorkers]) same fun _ _ => ?_
      exact same_ok { same with tapeWorkers := HashMap.update_congr same.tapeWorkers _ _ }
    · exact same_error same

/--
Copies of a catalogue answer a command alike and stay copies, in whatever orders they are iterated,
exactly if the command is decided.
-/
theorem applyCommand_same_iff (clock : Nat) (s : MetadataState) (cmd : MetadataCommand) :
    (∀ left right, s ≈ left → s ≈ right →
        (applyCommand clock left cmd).Same (applyCommand clock right cmd)) ↔
      s.Decided clock cmd := by
  -- Copies store the same bundles, so the command makes the same change of both.
  have bundles : ∀ {left : MetadataState}, s ≈ left →
      s.archiveBundles.get = left.archiveBundles.get := fun same => funext same.archiveBundles
  constructor
  · intro alike change changes admitted unnamed first second latest latest' apart
    obtain ⟨left, leftSame, found⟩ := exists_found_of_latest latest
    obtain ⟨right, rightSame, found'⟩ := exists_found_of_latest latest'
    have same := alike left right leftSame rightSame
    rw [applyCommand_objectChange (bundles leftSame ▸ changes),
      applyCommand_objectChange (bundles rightSame ▸ changes)] at same
    simp only [ObjectChange.applied, admitted, unnamed, found, found', Applied.given_passed] at same
    have stored := (findObjectMut_stored found).1
    have stored' := (findObjectMut_stored found').1
    -- Different versions are stored at different places.
    have places : first.1 ≠ second.1 := by
      intro here
      rw [here, ← leftSame.objects, rightSame.objects, stored'] at stored
      exact apart (Prod.ext here (Option.some.inj stored).symm)
    rcases refused : change.rewrite first.2 with status | changed <;>
      rcases refused' : change.rewrite second.2 with status' | changed' <;>
      rw [refused, refused'] at same
    · obtain ⟨answers, _⟩ := same
      cases answers
      exact .inl ⟨status, rfl, rfl⟩
    · cases same.1
    · cases same.1
    · -- Each place holds what both copies make of it, and only one of them writes there.
      have objects := same.2.objects
      have here := objects first.1
      have there := objects second.1
      simp only [Applied.given_passed, MetadataState.writeObject, ObjectChange.bundled_objects,
        HashMap.get_update_of_some _ _ stored, HashMap.get_update_ne _ _ places,
        HashMap.get_update_of_some _ _ stored', HashMap.get_update_ne _ _ places.symm,
        ← rightSame.objects first.1, leftSame.objects first.1, stored,
        ← leftSame.objects second.1, rightSame.objects second.1, stored', Option.some.injEq]
        at here there
      exact .inr ⟨by rw [here], by rw [there]⟩
  · intro decided left right leftSame rightSame
    have same := MetadataState.equiv_trans (MetadataState.equiv_symm leftSame) rightSame
    cases changes : cmd.objectChange (nowTimestamp clock) s.archiveBundles.get with
    | some change =>
      rw [applyCommand_objectChange (bundles leftSame ▸ changes),
        applyCommand_objectChange (bundles rightSame ▸ changes)]
      exact ObjectChange.applied_congr leftSame rightSame (decided change changes)
    | none =>
      refine applyCommand_congr_of_others same clock fun stored => ?_
      cases cmd <;> first | rfl | cases changes

/-- A command that finds one latest version is decided. -/
theorem MetadataState.TieFree.decided {s : MetadataState} {cmd : MetadataCommand}
    (tieFree : s.TieFree cmd) (clock : Nat) : s.Decided clock cmd := by
  intro change changes _ unnamed first second latest latest' apart
  have target : cmd.latestTarget = some (change.bucket, change.key) := by
    cases cmd with
    | updateStorageClass | updateArchiveLocation | updateRestoreStatus =>
      obtain rfl := Option.some.inj changes
      rfl
    | completeArchiveObject req =>
      obtain rfl := Option.some.inj changes
      cases given : req.bundle <;> simp_all [MetadataCommand.latestTarget,
        CompleteArchiveObjectRequest.objectChange]
    | _ => cases changes
  -- Two latest versions would be a tie.
  exact absurd (tieFree _ _ target first latest.1 second latest'.1
    (le_antisymm (latest'.2 first latest.1) (latest.2 second latest'.1)) latest.2) apart

/-- Two copies answer a command alike and stay copies, unless a tie between versions decides. -/
theorem applyCommand_congr (same : left ≈ right) (clock : Nat) {cmd : MetadataCommand}
    (tieFree : left.TieFree cmd) :
    (applyCommand clock left cmd).Same (applyCommand clock right cmd) :=
  (applyCommand_same_iff clock left cmd).mpr (tieFree.decided clock) left right
    (MetadataState.equiv_refl left) same

end ColdStore
