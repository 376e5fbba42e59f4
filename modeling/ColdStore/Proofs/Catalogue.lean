import ColdStore.Metadata.Congruence
import ColdStore.Metadata.Reachable

/-! What every catalogue keeps, whatever commands it has been given. -/

namespace ColdStore

open Rust

/-- A command that fails leaves all nine maps exactly as they were. -/
theorem failed_command_changes_nothing (clock : Nat) (s : MetadataState) (cmd : MetadataCommand)
    (status : Status) (failed : (applyCommand clock s cmd).1 = .error status) :
    (applyCommand clock s cmd).2 = s := applyCommand_atomic clock s cmd status failed

/-- A catalogue with a bucket, an object in it and a bundle. -/
def withConflict : MetadataState :=
  let object := { bucket := "docs", key := "a", size := 3, checksum := "c" }
  [.createBucket { name := "docs" }, .putObject object,
    .putArchiveBundle { id := "bundle-1", tapeId := "TAPE-1" }].foldl
      (fun s cmd => (applyCommand 5 s cmd).2) {}

/-- A completion that expects the object as it is, with another bundle of that name. -/
def conflictingCompletion : CompleteArchiveObjectRequest :=
  ⟨"docs", "a", none, some 3, some "c", some 0, some ⟨5, 0⟩,
    some { id := "bundle-1", tapeId := "TAPE-2" }, 0, StorageClass.cold.number⟩

/-- A completion that passes all checks but the last leaves object and bundle alone. -/
theorem failed_command_changes_nothing_conflict :
    withConflict.objects.containsKey ⟨"docs", "a", none⟩ = true ∧
      withConflict.archiveBundles.containsKey "bundle-1" = true ∧
      (applyCommand 6 withConflict (.completeArchiveObject conflictingCompletion)).2 =
        withConflict := by
  refine ⟨by decide, by decide, failed_command_changes_nothing 6 withConflict _
    (.alreadyExists "archive bundle already exists with different payload") ?_⟩
  decide

/-! Records are stored under their identities, and objects in buckets that exist. -/

/-- The bucket of every object exists. -/
def BucketsExist (s : MetadataState) : Prop :=
  ∀ place obj, s.objects.get place = some obj → s.buckets.containsKey obj.bucket = true

theorem bucketsExist_of_equiv {left right : MetadataState} (same : left ≈ right)
    (exist : BucketsExist left) : BucketsExist right := by
  intro place obj stored
  rw [← HashMap.containsKey_of_equiv same.buckets]
  exact exist place obj ((same.objects place).trans stored)

variable {before after : MetadataState}

/-- Whatever a command does, the buckets of objects exist afterwards. -/
theorem Effect.bucketsExist {cmd : MetadataCommand} (effect : Effect cmd before after)
    (exist : BucketsExist before) : BucketsExist after := by
  intro place obj stored
  cases effect with
  | none objects buckets =>
    rw [objects] at stored
    rw [buckets]
    exact exist place obj stored
  | put written present left =>
    subst left
    rw [refreshBucketStats_containsKey]
    rw [refreshBucketStats_objects, HashMap.get_insert] at stored
    -- The object is the one that was put, or it has been there before.
    split at stored
    · rw [Option.some.injEq] at stored
      rw [← stored]
      exact present
    · exact exist place obj stored
  | deleted gone left =>
    subst left
    rw [refreshBucketStats_containsKey]
    rw [refreshBucketStats_objects, HashMap.get_remove] at stored
    split at stored
    · cases stored
    · exact exist place obj stored
  | written there old changed found key size objects buckets =>
    rw [buckets]
    rw [objects, HashMap.get_update] at stored
    split at stored
    · -- The changed object is in the bucket of the old one.
      rw [found, Option.map_some, Option.some.injEq] at stored
      have bucket : changed.bucket = old.bucket := congrArg ObjectKey.bucket key
      rw [← stored, bucket]
      exact exist there old found
    · exact exist place obj stored
  | created bucket createdAt asked absent objects buckets =>
    rw [objects] at stored
    have before := exist place obj stored
    rw [buckets]
    simp only [HashMap.containsKey, HashMap.get_insert] at before ⊢
    split
    · rfl
    · exact before
  | dropped name empty objects buckets =>
    rw [objects] at stored
    -- The bucket that is removed has no objects.
    have other : obj.bucket ≠ name := by
      refine empty obj ?_
      rw [HashMap.mem_values]
      exact ⟨place, stored⟩
    rw [buckets, HashMap.containsKey, HashMap.get_remove_ne _ other]
    exact exist place obj stored

/-- Whatever commands are allowed, they keep records under their identities and objects in buckets. -/
theorem Reachable.catalogued {allowed : MetadataCommand → Prop} {s : MetadataState}
    (reached : Reachable allowed s) : s.KeysAgree ∧ BucketsExist s := by
  refine reached.invariant (fun s => s.KeysAgree ∧ BucketsExist s)
    ⟨keysAgree_default, fun place obj stored => by cases stored⟩ ?_ ?_
  · intro before found reordered ⟨agree, exist⟩
    exact ⟨keysAgree_of_equiv agree reordered, bucketsExist_of_equiv reordered exist⟩
  · intro clock before cmd _ ⟨agree, exist⟩
    exact ⟨applyCommand_keysAgree agree clock cmd,
      (applyCommand_effect clock before cmd).bucketsExist exist⟩

/-- In every catalogue each record is stored under its identity, and objects are in buckets that exist. -/
theorem reachable_keysAgree_and_bucketsExist {s : MetadataState}
    (reached : Reachable (fun _ => True) s) : s.KeysAgree ∧ BucketsExist s := reached.catalogued

/-- One object in one bucket is stored in order. -/
theorem reachable_keysAgree_and_bucketsExist_oneObject :
    let created := (applyCommand 0 {} (.createBucket { name := "docs" })).2
    let stored := (applyCommand 1 created (.putObject { bucket := "docs", key := "a" })).2
    stored.KeysAgree ∧ BucketsExist stored :=
  reachable_keysAgree_and_bucketsExist (.command 1
    (.command 0 .empty (MetadataState.equiv_refl _) trivial) (MetadataState.equiv_refl _) trivial)

/-! The statistics of a bucket are those of its objects. -/

/-- The sizes of the objects of a bucket, all versions. -/
def sizesOf (s : MetadataState) (name : String) : List Nat :=
  (s.objects.values.filter fun obj => obj.bucket == name).map ObjectMetadata.size

/-- The statistics of every bucket are those of its objects, in 64 bits. -/
def Counted (s : MetadataState) : Prop :=
  ∀ name bucket, s.buckets.get name = some bucket →
    bucket.objectCount = (sizesOf s name).length % 2 ^ 64 ∧
      bucket.totalSize = (sizesOf s name).sum % 2 ^ 64

/-- A bucket is created without objects. -/
def CreatesEmpty (cmd : MetadataCommand) : Prop :=
  ∀ bucket, cmd = .createBucket bucket → bucket.objectCount = 0 ∧ bucket.totalSize = 0

theorem counted_of_equiv {left right : MetadataState} (same : left ≈ right)
    (counted : Counted left) : Counted right := by
  intro name bucket stored
  have sizes : (sizesOf right name).Perm (sizesOf left name) :=
    (((HashMap.values_perm same.objects).symm).filter _).map _
  rw [sizes.length_eq, sizes.sum_eq]
  exact counted name bucket ((same.buckets name).trans stored)

/-- Buckets whose objects and statistics are as before are counted as before. -/
theorem Counted.of_same (counted : Counted before)
    (same : ∀ name bucket, after.buckets.get name = some bucket →
      sizesOf after name = sizesOf before name ∧ before.buckets.get name = some bucket) :
    Counted after := by
  intro name bucket stored
  obtain ⟨sizes, found⟩ := same name bucket stored
  rw [sizes]
  exact counted name bucket found

/-- Counting one bucket again makes it agree, and leaves the others to agree as before. -/
theorem Counted.refresh {changed : MetadataState} (counted : Counted before) (name : String)
    (buckets : changed.buckets = before.buckets)
    (others : ∀ other, other ≠ name → sizesOf changed other = sizesOf before other) :
    Counted (refreshBucketStats changed name) := by
  have sizes : ∀ other, sizesOf (refreshBucketStats changed name) other = sizesOf changed other :=
    fun other => by simp only [sizesOf, refreshBucketStats_objects]
  intro other bucket stored
  rw [sizes other]
  simp only [refreshBucketStats] at stored
  by_cases same : other = name
  · subst same
    split at stored
    · rename_i absent
      rw [absent] at stored
      cases stored
    · rename_i info found
      rw [HashMap.get_update_of_some _ _ found, Option.some.injEq] at stored
      subst stored
      exact ⟨by simp [sizesOf], rfl⟩
  · have unchanged : before.buckets.get other = some bucket := by
      rw [← buckets]
      split at stored
      · exact stored
      · rwa [HashMap.get_update_ne _ _ same] at stored
    rw [others other same]
    exact counted other bucket unchanged

/-- An object at a place belongs to the bucket of the place. -/
theorem bucket_of_place {s : MetadataState} (agree : s.KeysAgree) {place : ObjectKey}
    {obj : ObjectMetadata} (stored : s.objects.get place = some obj) :
    obj.bucket = place.bucket := by
  have identity := HashMap.keyed_iff.mp agree.objects place obj stored
  rw [identity]
  rfl

/-- Whatever a command does, the statistics agree with the objects afterwards. -/
theorem Effect.counted {cmd : MetadataCommand} (effect : Effect cmd before after)
    (agree : before.KeysAgree) (exist : BucketsExist before) (creates : CreatesEmpty cmd)
    (counted : Counted before) : Counted after := by
  cases effect with
  | none objects buckets =>
    refine counted.of_same fun name bucket stored => ?_
    rw [buckets] at stored
    exact ⟨by simp only [sizesOf, objects], stored⟩
  | put obj present left =>
    subst left
    refine counted.refresh obj.bucket rfl fun other ne => ?_
    -- Neither the new object nor the one it replaces is in another bucket.
    refine congrArg (List.map ObjectMetadata.size) (HashMap.values_insert_filter _ ?_ ?_)
    · intro old stored
      have bucket := bucket_of_place agree stored
      simpa [bucket, ObjectMetadata.objectKey] using Ne.symm ne
    · simpa using Ne.symm ne
  | deleted place left =>
    subst left
    refine counted.refresh place.bucket rfl fun other ne => ?_
    refine congrArg (List.map ObjectMetadata.size) (HashMap.values_remove_filter _ ?_)
    intro old stored
    have bucket := bucket_of_place agree stored
    simpa [bucket] using Ne.symm ne
  | written place old changed found key size objects buckets =>
    refine counted.of_same fun name bucket stored => ?_
    rw [buckets] at stored
    refine ⟨?_, stored⟩
    have same : changed.bucket = old.bucket := congrArg ObjectKey.bucket key
    simp only [sizesOf, objects]
    exact HashMap.values_update_filter_map _ found (by rw [same]) size
  | created bucket createdAt asked absent objects buckets =>
    intro name info stored
    rw [buckets, HashMap.get_insert] at stored
    have sizes : sizesOf after name = sizesOf before name := by simp only [sizesOf, objects]
    rw [sizes]
    split at stored
    · rename_i same
      subst same
      rw [Option.some.injEq] at stored
      -- No object can be in a bucket that was not there.
      have none : sizesOf before bucket.name = [] := by
        rw [sizesOf, List.map_eq_nil_iff, List.filter_eq_nil_iff]
        intro obj mem inside
        obtain ⟨place, found⟩ := (HashMap.mem_values _ _).mp mem
        have there := exist place obj found
        rw [eq_of_beq inside, HashMap.containsKey, absent] at there
        cases there
      obtain ⟨count, total⟩ := creates bucket asked
      rw [none, ← stored]
      exact ⟨count, total⟩
    · exact counted name info stored
  | dropped name empty objects buckets =>
    refine counted.of_same fun other bucket stored => ?_
    rw [buckets, HashMap.get_remove] at stored
    refine ⟨by simp only [sizesOf, objects], ?_⟩
    split at stored
    · cases stored
    · exact stored

/--
The statistics of every bucket are those of its objects.

A map in memory has fewer entries than a machine word can count.
-/
theorem reachable_bucketStats {s : MetadataState} (reached : Reachable CreatesEmpty s)
    (countable : s.objects.len < 2 ^ 64) (name : String) (bounded : (sizesOf s name).sum < 2 ^ 64)
    {bucket : BucketInfo} (stored : s.buckets.get name = some bucket) :
    bucket.objectCount = (sizesOf s name).length ∧ bucket.totalSize = (sizesOf s name).sum := by
  have kept : s.KeysAgree ∧ BucketsExist s ∧ Counted s := by
    refine reached.invariant (fun s => s.KeysAgree ∧ BucketsExist s ∧ Counted s)
      ⟨keysAgree_default, (fun place obj stored => by cases stored),
        fun name bucket stored => by cases stored⟩ ?_ ?_
    · intro before found reordered ⟨agree, exist, counted⟩
      exact ⟨keysAgree_of_equiv agree reordered, bucketsExist_of_equiv reordered exist,
        counted_of_equiv reordered counted⟩
    · intro clock before cmd creates ⟨agree, exist, counted⟩
      have effect := applyCommand_effect clock before cmd
      exact ⟨applyCommand_keysAgree agree clock cmd, effect.bucketsExist exist,
        effect.counted agree exist creates counted⟩
  obtain ⟨count, total⟩ := kept.2.2 name bucket stored
  have few : (sizesOf s name).length ≤ s.objects.len := by
    simp only [sizesOf, HashMap.len, HashMap.values, List.length_map]
    exact (List.length_filter_le _ _).trans (List.length_map _).le
  rw [Nat.mod_eq_of_lt (by omega)] at count
  rw [Nat.mod_eq_of_lt bounded] at total
  exact ⟨count, total⟩

/-- A bucket with two versions of one object counts both of them. -/
theorem reachable_bucketStats_twoVersions :
    let created := (applyCommand 0 {} (.createBucket { name := "docs" })).2
    let first := (applyCommand 1 created (.putObject { bucket := "docs", key := "a", size := 3 })).2
    let second := (applyCommand 2 first
      (.putObject { bucket := "docs", key := "a", versionId := some "v", size := 4 })).2
    ∃ bucket, second.buckets.get "docs" = some bucket ∧ bucket.objectCount = 2 ∧
      bucket.totalSize = 7 := by
  have puts : ∀ obj, CreatesEmpty (.putObject obj) := by
    rintro obj bucket ⟨⟩
  have creates : CreatesEmpty (.createBucket { name := "docs" }) := by
    rintro bucket ⟨⟩
    exact ⟨rfl, rfl⟩
  have order : ∀ s : MetadataState, s ≈ s := MetadataState.equiv_refl
  have reached := Reachable.command 2 (.command 1 (.command 0 .empty (order _) creates) (order _)
    (puts { bucket := "docs", key := "a", size := 3 })) (order _)
    (puts { bucket := "docs", key := "a", versionId := some "v", size := 4 })
  refine ⟨_, rfl, ?_⟩
  exact reachable_bucketStats reached (by decide) "docs" (by decide) rfl

end ColdStore
