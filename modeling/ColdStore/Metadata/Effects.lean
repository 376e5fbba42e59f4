import ColdStore.Metadata.ApplyLaws

/-! What the commands of an archive worker leave of objects, buckets and tasks. -/

namespace ColdStore

open Rust

variable {s : MetadataState} {bucket key : String} {obj : ObjectMetadata}

/-- What a search finds is stored under its own identity. -/
theorem findObject_keyed (agree : s.KeysAgree) {versionId : Option String}
    (found : findObject s bucket key versionId = .ok obj) :
    s.objects.get obj.objectKey = some obj ∧ obj.bucket = bucket ∧ obj.key = key := by
  rw [findObject_eq] at found
  -- Reading finds the object that writing would.
  cases searched : findObjectMut s bucket key versionId with
  | error status =>
    rw [searched] at found
    cases found
  | ok result =>
    obtain ⟨place, stored⟩ := result
    rw [searched] at found
    obtain rfl : stored = obj := Except.ok.inj found
    obtain ⟨there, rfl, rfl⟩ := findObjectMut_stored searched
    obtain rfl := HashMap.keyed_iff.mp agree.objects place stored there
    exact ⟨there, rfl, rfl⟩

/-- An object once its archiving is complete. -/
def completedObject (now : Timestamp) (req : CompleteArchiveObjectRequest)
    (bundle : ArchiveBundle) (obj : ObjectMetadata) : ObjectMetadata :=
  { obj with
    archiveId := some bundle.id
    tapeId := some bundle.tapeId
    tapeSet := bundle.tapeSet
    tapeBlockOffset := some req.tapeBlockOffset
    storageClass := req.storageClass
    updatedAt := some now }

/-- A request expects the object as it was read. -/
structure CompleteArchiveObjectRequest.Expects (req : CompleteArchiveObjectRequest)
    (obj : ObjectMetadata) : Prop where
  versionId : req.versionId = obj.versionId
  size : req.expectedSize = some obj.size
  checksum : req.expectedChecksum = some obj.checksum
  storageClass : req.expectedStorageClass = some obj.storageClass
  updatedAt : req.expectedUpdatedAt = obj.updatedAt

variable {req : CompleteArchiveObjectRequest}

/-- A completion that passes its checks expects the object as it is. -/
theorem expects_of_valid (valid : validateCompleteArchivePreconditions obj req = .ok ()) :
    req.Expects obj := by
  simp only [validateCompleteArchivePreconditions, bind_eq_ok, okOr_eq_ok, ensure_eq_ok,
    beq_iff_eq] at valid
  -- Each step of the check is about one value, which has to be given.
  obtain ⟨_, versionId, size, givenSize, _, sameSize, checksum, givenChecksum, _, sameChecksum,
    storageClass, givenClass, _, sameClass, _, _, updatedAt⟩ := valid
  exact ⟨versionId.symm, by rw [givenSize, sameSize], by rw [givenChecksum, sameChecksum],
    by rw [givenClass, sameClass], updatedAt.symm⟩

variable {now : Timestamp}

/-- What a completion that succeeds has found, and what it leaves. -/
def Completed (now : Timestamp) (req : CompleteArchiveObjectRequest)
    (before after : MetadataState) : Prop :=
  ∃ bundle place obj, req.bundle = some bundle ∧ req.Expects obj ∧
    (before.archiveBundles.get bundle.id).all (· == bundle) = true ∧
    findObjectMut before req.bucket req.key req.versionId = .ok (place, obj) ∧
    after = (storeBundle before bundle).writeObject place (completedObject now req bundle obj)

theorem completeArchiveObject_ok (ok : (completeArchiveObject now req s).1 = .ok ()) :
    Completed now req s (completeArchiveObject now req s).2 := by
  obtain ⟨bundle, given, first, ok⟩ := Applied.given_ok ok
  obtain ⟨_, _, second, ok⟩ := Applied.given_ok ok
  obtain ⟨obj, found, third, ok⟩ := Applied.given_ok ok
  obtain ⟨_, valid, fourth, ok⟩ := Applied.given_ok ok
  obtain ⟨_, matching, fifth, ok⟩ := Applied.given_ok ok
  obtain ⟨⟨place, again⟩, changed, sixth, _⟩ := Applied.given_ok ok
  rw [okOr_eq_ok] at given
  rw [ensure_eq_ok] at matching
  -- The second search looks at the same objects as the first, and so finds the same record.
  rw [findObjectMut_of_objects (storeBundle_objects s bundle)] at changed
  have same : again = obj := by simpa [findObject_eq, changed, Except.map] using found
  subst same
  have result := first.trans (second.trans (third.trans (fourth.trans (fifth.trans sixth))))
  exact ⟨bundle, place, again, given, expects_of_valid valid, matching, changed,
    congrArg Prod.snd result⟩

/-- A completion succeeds or changes nothing. -/
theorem completeArchiveObject_cases (now : Timestamp) (req : CompleteArchiveObjectRequest)
    (s : MetadataState) : (completeArchiveObject now req s).2 = s ∨
      Completed now req s (completeArchiveObject now req s).2 := by
  cases answer : (completeArchiveObject now req s).1 with
  | error status =>
    exact .inl ((completeArchiveObject_settled now req s).atomic status answer)
  | ok value => exact .inr (completeArchiveObject_ok answer)

/-- Objects and buckets are as before, but for one object that took on a storage class. -/
structure Reclassified (storageClass : Int) (before after : MetadataState) : Prop where
  buckets : after.buckets = before.buckets
  objects : after.objects = before.objects ∨ ∃ place obj changed,
    before.objects.get place = some obj ∧ changed.objectKey = obj.objectKey ∧
      changed.storageClass = storageClass ∧ after.objects = before.objects.update place changed

variable (storageClass : Int)

theorem Reclassified.refl (s : MetadataState) :
    Reclassified storageClass s s := ⟨rfl, Or.inl rfl⟩

variable {place : ObjectKey}

/-- An object is the one from before, or it has got the storage class and kept its identity. -/
theorem Reclassified.cases {storageClass : Int} {before after : MetadataState}
    (reclassified : Reclassified storageClass before after)
    (stored : after.objects.get place = some obj) :
    before.objects.get place = some obj ∨ ∃ old, before.objects.get place = some old ∧
      obj.objectKey = old.objectKey ∧ obj.storageClass = storageClass := by
  rcases reclassified.objects with same | ⟨changedPlace, old, changed, was, key, class_, update⟩
  · exact .inl (same ▸ stored)
  · rw [update, HashMap.get_update] at stored
    split at stored
    · rename_i samePlace
      rw [was, Option.map_some, Option.some.injEq] at stored
      subst stored
      exact .inr ⟨old, samePlace ▸ was, key, class_⟩
    · exact .inl stored

/-- Completing an archive changes one object at most, to the storage class that was asked for. -/
theorem completeArchiveObject_reclassified (now : Timestamp)
    (req : CompleteArchiveObjectRequest) (s : MetadataState) :
    Reclassified req.storageClass s (completeArchiveObject now req s).2 := by
  obtain same | ⟨bundle, place, obj, _, _, _, found, after⟩ :=
    completeArchiveObject_cases now req s
  · rw [same]
    exact .refl _ _
  · rw [after, MetadataState.writeObject, storeBundle_objects]
    refine ⟨?_, .inr ⟨place, obj, completedObject now req bundle obj,
      (findObjectMut_stored found).1, rfl, rfl, rfl⟩⟩
    simp only [storeBundle]
    split <;> rfl

section

variable (plain : ∀ place obj, s.objects.get place = some obj → place.versionId = none)

include plain

variable (stored : s.objects.get ⟨bucket, key, none⟩ = some obj)

include stored

/-- An object of which only the version without an id is stored is found there. -/
theorem findObjectMut_plain : findObjectMut s bucket key none = .ok (⟨bucket, key, none⟩, obj) := by
  rw [findObjectMut_none]
  have listed : ((⟨bucket, key, none⟩ : ObjectKey), obj) ∈ versions s bucket key :=
    mem_versions.mpr ⟨stored, rfl, rfl⟩
  cases latest : latestVersion s bucket key with
  | none =>
    rw [latestVersion, maxByKey_eq_none] at latest
    rw [latest] at listed
    cases listed
  | some entry =>
    -- Whatever is found is the version without an id.
    obtain ⟨found, sameBucket, sameKey⟩ := mem_versions.mp (maxByKey_spec latest).1
    have place : entry.1 = ⟨bucket, key, none⟩ := by
      rw [← sameBucket, ← sameKey, ← plain _ _ found]
    rw [place, stored, Option.some.injEq] at found
    rw [okOr_eq_ok, found, ← place]

theorem findObject_of_plain : findObject s bucket key none = .ok obj := by
  rw [findObject_eq, findObjectMut_plain plain stored]
  rfl

end

variable {task : ArchiveTask}

/-- A task that is not there yet is stored. -/
theorem putArchiveTask_absent (now : Timestamp) (absent : s.archiveTasks.get task.id = none) :
    putArchiveTask now task s = (.ok (), { s with
      archiveTasks := s.archiveTasks.insert task.id
        { task with createdAt := task.createdAt.or (some now) } }) := by
  simp only [putArchiveTask, absent]

/-- A change of status that may follow is made. -/
theorem updateArchiveTask_accepted {stored : ArchiveTask} (current next : ArchiveTaskStatus)
    (present : s.archiveTasks.get task.id = some stored) (was : stored.status = current.number)
    (becomes : task.status = next.number) (follows : archiveTaskMayFollow current next = true) :
    updateArchiveTask task s =
      (.ok (), { s with archiveTasks := s.archiveTasks.insert task.id task }) := by
  have known : ∀ mem : ArchiveTaskStatus, tryFrom ArchiveTaskStatus mem.number = some mem :=
    fun mem => tryFrom_number mem
  simp only [updateArchiveTask, present, okOr, Applied.given, validateArchiveTaskTransition,
    validateTransition, was, becomes, known, Bind.bind, Except.bind, follows, ensure, if_true]

/-- A recall task that is not there yet is stored. -/
theorem putRecallTask_absent {task : RecallTask} (now : Timestamp)
    (absent : s.recallTasks.get task.id = none) :
    putRecallTask now task s = (.ok (), { s with
      recallTasks := s.recallTasks.insert task.id
        { task with createdAt := task.createdAt.or (some now) } }) := by
  simp only [putRecallTask, absent]

/-- A restore status may follow one that allows it. -/
theorem validateRestoreTransition_known {current next : RestoreStatus}
    (follows : restoreMayFollow current next = true) :
    validateRestoreTransition (some current.number) next.number = .ok () := by
  have known : ∀ mem : RestoreStatus, tryFrom RestoreStatus mem.number = some mem :=
    fun mem => tryFrom_number mem
  simp only [validateRestoreTransition, Option.bind_some, known, okOr, Bind.bind, Except.bind,
    follows, ensure, if_true]

/-- Every restore status may come first. -/
theorem validateRestoreTransition_first (next : RestoreStatus) :
    validateRestoreTransition none next.number = .ok () := by
  have known : tryFrom RestoreStatus next.number = some next := tryFrom_number next
  simp only [validateRestoreTransition, Option.bind_none, known, okOr, Bind.bind, Except.bind,
    ensure, if_true]

/-- A change of a recall task that may follow is made. -/
theorem updateRecallTask_accepted {task stored : RecallTask} (current next : RestoreStatus)
    (present : s.recallTasks.get task.id = some stored) (was : stored.status = current.number)
    (becomes : task.status = next.number) (follows : restoreMayFollow current next = true) :
    updateRecallTask task s =
      (.ok (), { s with recallTasks := s.recallTasks.insert task.id task }) := by
  simp only [updateRecallTask, present, okOr, Applied.given, was, becomes,
    validateRestoreTransition_known follows]

/-- The record of an object with another restore status. -/
def restoring (status : RestoreStatus) (expireAt : Option Timestamp) (now : Timestamp)
    (obj : ObjectMetadata) : ObjectMetadata :=
  { obj with
    restoreStatus := some status.number
    restoreExpireAt := expireAt
    updatedAt := some now }

/-- A change of restore status that is valid is made. -/
theorem updateRestoreStatus_accepted {status : RestoreStatus} (expireAt : Option Timestamp)
    (found : findObjectMut s bucket key none = .ok (place, obj))
    (valid : validateRestoreTransition obj.restoreStatus status.number = .ok ()) :
    updateRestoreStatus now ⟨bucket, key, status.number, expireAt⟩ s = (.ok (), { s with
      objects := s.objects.update place (restoring status expireAt now obj) }) := by
  simp only [updateRestoreStatus, found, Applied.given, valid]
  rfl

/-- What a change of restore status that succeeds has found, and what it leaves. -/
theorem updateRestoreStatus_ok {req : UpdateRestoreStatusRequest}
    (ok : (updateRestoreStatus now req s).1 = .ok ()) :
    ∃ place obj, findObjectMut s req.bucket req.key none = .ok (place, obj) ∧
      validateRestoreTransition obj.restoreStatus req.status = .ok () ∧
      (updateRestoreStatus now req s).2 = s.writeObject place { obj with
        restoreStatus := some req.status
        restoreExpireAt := req.expireAt
        updatedAt := some now } := by
  obtain ⟨⟨place, obj⟩, found, first, ok⟩ := Applied.given_ok ok
  obtain ⟨_, valid, second, _⟩ := Applied.given_ok ok
  exact ⟨place, obj, found, valid, congrArg Prod.snd (first.trans second)⟩

/-- The archiving of an object that has not changed is recorded, under a bundle that is new. -/
theorem completeArchiveObject_accepted {bundle : ArchiveBundle}
    (given : req.bundle = some bundle) (named : bundle.id ≠ "")
    (found : findObjectMut s req.bucket req.key req.versionId = .ok (place, obj))
    (unchanged : validateCompleteArchivePreconditions obj req = .ok ())
    (absent : s.archiveBundles.get bundle.id = none) :
    completeArchiveObject now req s = (.ok (), { s with
      archiveBundles := s.archiveBundles.insert bundle.id bundle
      objects := s.objects.update place (completedObject now req bundle obj) }) := by
  -- The object is searched for twice, the second time in the state that has the bundle.
  have again : findObjectMut (storeBundle s bundle) req.bucket req.key
      req.versionId = .ok (place, obj) := by
    rw [findObjectMut_of_objects (storeBundle_objects s bundle), found]
  have named' : (bundle.id != "") = true := by simpa using named
  simp only [completeArchiveObject, given, okOr, Applied.given, named', ensure, if_true,
    findObject_eq, found, Except.map, unchanged, absent, Option.all_none, again,
    MetadataState.writeObject, completedObject]
  simp [storeBundle, HashMap.containsKey, absent]

end ColdStore
