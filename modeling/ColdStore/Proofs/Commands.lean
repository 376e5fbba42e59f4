import ColdStore.Metadata.Congruence
import ColdStore.Metadata.Contents
import ColdStore.Metadata.Effects
import ColdStore.Proofs.Replication

/-! Single commands: the completion of an archiving, refused commands, and copies that replay them. -/

namespace ColdStore

open Rust MetadataService

/-! The completion of an archiving compares an object with what is expected and then swaps it. -/

/-- A bundle is stored once, and nothing else changes with it. -/
structure BundleStored (bundle : ArchiveBundle) (before after : MetadataState) : Prop where
  archiveBundles :
    (before.archiveBundles.get bundle.id = none ∧
      after.archiveBundles = before.archiveBundles.insert bundle.id bundle) ∨
    (before.archiveBundles.get bundle.id = some bundle ∧
      after.archiveBundles = before.archiveBundles)
  buckets : after.buckets = before.buckets
  archiveTasks : after.archiveTasks = before.archiveTasks
  recallTasks : after.recallTasks = before.recallTasks
  tapes : after.tapes = before.tapes
  schedulerWorkers : after.schedulerWorkers = before.schedulerWorkers
  cacheWorkers : after.cacheWorkers = before.cacheWorkers
  tapeWorkers : after.tapeWorkers = before.tapeWorkers

theorem storeBundle_stored {s : MetadataState} {bundle : ArchiveBundle}
    (same : (s.archiveBundles.get bundle.id).all (· == bundle) = true) :
    BundleStored bundle s (storeBundle s bundle) := by
  cases stored : s.archiveBundles.get bundle.id with
  | none =>
    have new : storeBundle s bundle =
        { s with archiveBundles := s.archiveBundles.insert bundle.id bundle } := by
      simp [storeBundle, HashMap.containsKey, stored]
    rw [new]
    exact ⟨.inl ⟨stored, rfl⟩, rfl, rfl, rfl, rfl, rfl, rfl, rfl⟩
  | some existing =>
    -- What is stored already is the bundle itself.
    have equal : existing = bundle := by simpa [stored] using same
    have old : storeBundle s bundle = s := by
      simp [storeBundle, HashMap.containsKey, stored]
    rw [old]
    exact ⟨.inr ⟨by rw [stored, equal], rfl⟩, rfl, rfl, rfl, rfl, rfl, rfl, rfl⟩

/-- Both searches of a completion pick the record under the requested version. -/
theorem completeArchiveObject_swaps {s after : MetadataState} {now : Timestamp}
    {req : CompleteArchiveObjectRequest} (agree : s.KeysAgree)
    (completed : completeArchiveObject now req s = (.ok (), after)) :
    ∃ bundle obj, req.bundle = some bundle ∧ req.Expects obj ∧
      s.objects.get ⟨req.bucket, req.key, req.versionId⟩ = some obj ∧
      after.objects = s.objects.update ⟨req.bucket, req.key, req.versionId⟩
        (completedObject now req bundle obj) ∧
      BundleStored bundle s after := by
  obtain ⟨bundle, place, obj, given, expects, matching, changed, left⟩ :=
    completeArchiveObject_ok (congrArg Prod.fst completed)
  simp only [completed] at left
  obtain ⟨stored, bucket, key⟩ := findObjectMut_stored changed
  -- The record is stored under its own version, which is the requested one.
  have version : place.versionId = req.versionId := by
    have identity := agree.objects (place, obj) ((HashMap.mem_entries _ _ _).mpr stored)
    rw [expects.versionId]
    exact congrArg ObjectKey.versionId identity
  have target : place = ⟨req.bucket, req.key, req.versionId⟩ := by
    rw [← bucket, ← key, ← version]
  subst target
  refine ⟨bundle, obj, given, expects, stored, ?_, ?_⟩
  · rw [left, MetadataState.writeObject, storeBundle_objects]
  · rw [left]
    exact { storeBundle_stored matching with }

/--
The completion of an archiving changes the record that was read, and only where it was archived.

The record under the requested version was as expected. A bundle of the same name that is already
stored is the same bundle.
-/
theorem archive_completion_exact {s after : MetadataState} {clock : Nat}
    {req : CompleteArchiveObjectRequest} (agree : s.KeysAgree)
    (completed : applyCommand clock s (.completeArchiveObject req) = (.ok (), after)) :
    ∃ bundle obj, req.bundle = some bundle ∧
      s.objects.get ⟨req.bucket, req.key, req.versionId⟩ = some obj ∧ req.Expects obj ∧
      (∀ place, after.objects.get place =
        if place = ⟨req.bucket, req.key, req.versionId⟩ then
          some { obj with
            archiveId := some bundle.id
            tapeId := some bundle.tapeId
            tapeSet := bundle.tapeSet
            tapeBlockOffset := some req.tapeBlockOffset
            storageClass := req.storageClass
            updatedAt := some (nowTimestamp clock) }
        else s.objects.get place) ∧
      BundleStored bundle s after := by
  obtain ⟨bundle, obj, given, expects, stored, objects, bundles⟩ :=
    completeArchiveObject_swaps agree completed
  refine ⟨bundle, obj, given, stored, expects, fun place => ?_, bundles⟩
  rw [objects, HashMap.get_update, stored]
  rfl

/-- A key with two versions, of which the one without a name was updated last. -/
def twoVersions : MetadataState where
  objects := HashMap.collect
    [(⟨"docs", "a", some "v1"⟩,
        { bucket := "docs", key := "a", versionId := some "v1", size := 3, checksum := "aa",
          updatedAt := some ⟨1, 0⟩ }),
      (⟨"docs", "a", none⟩,
        { bucket := "docs", key := "a", size := 3, checksum := "aa", updatedAt := some ⟨2, 0⟩ })]

/-- The archiving of the version without a name. -/
def completion : CompleteArchiveObjectRequest where
  bucket := "docs"
  key := "a"
  versionId := none
  expectedSize := some 3
  expectedChecksum := some "aa"
  expectedStorageClass := some 0
  expectedUpdatedAt := some ⟨2, 0⟩
  bundle := some { id := "bundle-1", tapeId := "TAPE-1" }
  tapeBlockOffset := 7
  storageClass := 1

/-- Of two versions of a key, the archived one is changed. -/
theorem archive_completion_exact_unversioned :
    ∃ bundle obj, completion.bundle = some bundle ∧
      twoVersions.objects.get ⟨"docs", "a", none⟩ = some obj ∧ completion.Expects obj ∧
      (applyCommand 5 twoVersions (.completeArchiveObject completion)).2.objects.get
        ⟨"docs", "a", some "v1"⟩ = twoVersions.objects.get ⟨"docs", "a", some "v1"⟩ := by
  have ok : (applyCommand 5 twoVersions (.completeArchiveObject completion)).1 = .ok () := by
    decide +kernel
  have agree : twoVersions.KeysAgree :=
    { keysAgree_default with objects := by unfold HashMap.Keyed; decide }
  obtain ⟨bundle, obj, given, stored, expects, objects, _⟩ :=
    archive_completion_exact agree (Prod.ext ok rfl)
  exact ⟨bundle, obj, given, stored, expects, objects ⟨"docs", "a", some "v1"⟩⟩

/-! A command is applied in memory before anything is stored. -/

section

variable [KeyValueStore] {platform : Platform} {faults : StorageFaults} {clock applied : Nat}
  {svc : MetadataService} {cmd : MetadataCommand} {backend : RaftMetadataBackend}

end

/--
A copy of the catalogue replays commands, each with the clock reading it was given.

Between two commands its maps may be iterated in another order than before.
-/
inductive Replays (allowed : Nat → MetadataState → MetadataCommand → Prop) :
    MetadataState → List (Nat × MetadataCommand) → List (Except Status Unit) → MetadataState →
      Prop where
  | start (s : MetadataState) : Replays allowed s [] [] s
  | apply {first before found after : MetadataState} {inputs : List (Nat × MetadataCommand)}
      {answers : List (Except Status Unit)} {clock : Nat} {cmd : MetadataCommand}
      {answer : Except Status Unit} (ran : Replays allowed first inputs answers before)
      (reordered : before ≈ found) (admitted : allowed clock found cmd)
      (applied : applyCommand clock found cmd = (answer, after)) :
      Replays allowed first (inputs ++ [(clock, cmd)]) (answers ++ [answer]) after

/-- Copies that start alike and replay the same decided commands never differ. -/
theorem replays_agree {first first' last last' : MetadataState}
    {inputs : List (Nat × MetadataCommand)} {answers answers' : List (Except Status Unit)}
    (alike : first ≈ first') (replayed : Replays MetadataState.Decided first inputs answers last)
    (replayed' : Replays (fun _ _ _ => True) first' inputs answers' last') :
    answers = answers' ∧ last ≈ last' := by
  -- The induction is on the first replay, and the second one has the same last command.
  induction replayed generalizing answers' last' with
  | start =>
    generalize commands : ([] : List (Nat × MetadataCommand)) = inputs at replayed'
    cases replayed' with
    | start => exact ⟨rfl, alike⟩
    | apply ran => simp at commands
  | @apply before found after inputs answers clock cmd answer ran reordered admitted applied ih =>
    generalize commands : inputs ++ [(clock, cmd)] = all at replayed'
    cases replayed' with
    | start => simp at commands
    | apply ran' reordered' _ applied' =>
      obtain ⟨rfl, same⟩ := List.append_inj' commands rfl
      cases same
      obtain ⟨rfl, before⟩ := ih ran'
      -- The two copies the command is applied to differ in their iteration orders only.
      have found := MetadataState.equiv_trans (MetadataState.equiv_symm reordered)
        (MetadataState.equiv_trans before reordered')
      have same := (applyCommand_same_iff clock _ cmd).mpr admitted _ _
        (MetadataState.equiv_refl _) found
      rw [applied, applied'] at same
      obtain ⟨rfl, states⟩ : _ = _ ∧ _ ≈ _ := same
      exact ⟨rfl, states⟩

/--
Copies of a catalogue answer a command alike and stay copies, in whatever orders their maps are
iterated, exactly if the command is decided: all the latest versions that it may find are refused for
the same reason, or left as they are.

So copies that start alike and replay the same commands never differ while every command is decided,
as it is if no version shares its time with the latest one.
-/
theorem replicas_agree_iff_decided (clock : Nat) (s : MetadataState) (cmd : MetadataCommand) :
    ((∀ left right, s ≈ left → s ≈ right →
        (applyCommand clock left cmd).Same (applyCommand clock right cmd)) ↔
      s.Decided clock cmd) ∧ (s.TieFree cmd → s.Decided clock cmd) ∧
    ∀ first first' last last' inputs answers answers', first ≈ first' →
      Replays MetadataState.Decided first inputs answers last →
        Replays (fun _ _ _ => True) first' inputs answers' last' →
          answers = answers' ∧ last ≈ last' :=
  ⟨applyCommand_same_iff clock s cmd, fun free => free.decided clock,
    fun _ _ _ _ _ _ _ => replays_agree⟩

/--
What is stored of an object is what the last accepted upload to its place stored of it.

After an accepted deletion it is nothing. No other command, and no refused one, changes it, in
whatever order the maps are iterated.
-/
theorem content_follows_uploads {allowed : Nat → MetadataState → MetadataCommand → Prop}
    {first last : MetadataState} {inputs : List (Nat × MetadataCommand)}
    {answers : List (Except Status Unit)} (replayed : Replays allowed first inputs answers last)
    (place : ObjectKey) :
    (last.objects.get place).map ObjectMetadata.content =
      (inputs.zip answers).foldl (fun content sent =>
          if sent.2.isOk then sent.1.2.contentAt sent.1.1 place content else content)
        ((first.objects.get place).map ObjectMetadata.content) := by
  have answered : inputs.length = answers.length := by
    induction replayed with
    | start => rfl
    | apply _ _ _ _ ih => simp [ih]
  induction replayed with
  | start => rfl
  | @apply before found after inputs answers clock cmd answer ran reordered _ applied ih =>
    have counted : inputs.length = answers.length := by simpa using answered
    rw [List.zip_append counted, List.foldl_append, ← ih counted, reordered.objects place]
    have effect := applyCommand_objects clock found cmd
    have atomic := applyCommand_atomic clock found cmd
    rw [applied] at effect atomic
    -- A refused command has changed nothing.
    cases answer with
    | error status => rw [show after = found from atomic status rfl]; rfl
    | ok _ => exact effect.content_eq rfl place

/-- The same two versions, iterated the other way round. -/
def twoVersionsReversed : MetadataState where
  objects := ⟨twoVersions.objects.entries.reverse, by decide⟩

theorem twoVersions_reversed : twoVersions ≈ twoVersionsReversed := by
  refine { MetadataState.equiv_refl {} with objects := ?_ }
  exact HashMap.equiv_of_perm (List.reverse_perm _).symm

/-- A command on the latest of two versions is answered alike in both orders. -/
theorem replicas_agree_reversed :
    (applyCommand 5 twoVersions (.updateStorageClass ⟨"docs", "a", 1⟩)).1 =
        (applyCommand 5 twoVersionsReversed (.updateStorageClass ⟨"docs", "a", 1⟩)).1 ∧
      (applyCommand 5 twoVersions (.updateStorageClass ⟨"docs", "a", 1⟩)).2 ≈
        (applyCommand 5 twoVersionsReversed (.updateStorageClass ⟨"docs", "a", 1⟩)).2 := by
  -- The two versions were updated at different times, so one is the latest in any order.
  have unique : twoVersions.TieFree (.updateStorageClass ⟨"docs", "a", 1⟩) := by
    rintro bucket key ⟨⟩
    unfold MetadataState.LatestUnique
    decide +kernel
  have replays : ∀ s : MetadataState, ∀ allowed : Nat → MetadataState → MetadataCommand → Prop,
      allowed 5 s (.updateStorageClass ⟨"docs", "a", 1⟩) →
      Replays allowed s ([] ++ [(5, .updateStorageClass ⟨"docs", "a", 1⟩)])
        ([] ++ [(applyCommand 5 s (.updateStorageClass ⟨"docs", "a", 1⟩)).1])
        (applyCommand 5 s (.updateStorageClass ⟨"docs", "a", 1⟩)).2 :=
    fun s _ admitted => .apply (.start s) (MetadataState.equiv_refl s) admitted rfl
  obtain ⟨_, decided, agree⟩ := replicas_agree_iff_decided 5 twoVersions
    (.updateStorageClass ⟨"docs", "a", 1⟩)
  have agree := agree _ _ _ _ _ _ _ twoVersions_reversed
    (replays twoVersions _ (decided unique)) (replays twoVersionsReversed _ trivial)
  exact ⟨by simpa using agree.1, agree.2⟩

/-- Two versions of a key are put within one second. -/
def tiedInputs : List (Nat × MetadataCommand) :=
  [(0, .createBucket { name := "docs" }),
    (1, .putObject { bucket := "docs", key := "a", versionId := some "v1" }),
    (1, .putObject { bucket := "docs", key := "a", versionId := some "v2" })]

/-- The catalogue after commands, with its maps iterated as they were filled. -/
def replayed (inputs : List (Nat × MetadataCommand)) (s : MetadataState) : MetadataState :=
  inputs.foldl (fun s input => (applyCommand input.1 s input.2).2) s

/-- The same catalogue, with the objects iterated the other way round. -/
def tiedReversed : MetadataState :=
  { replayed tiedInputs {} with
    objects := ⟨(replayed tiedInputs {}).objects.entries.reverse, by decide +kernel⟩ }

/-- Two copies replay the same commands and end up with different objects in cold storage. -/
theorem replicas_diverge_on_ties :
    ∃ last last' answers, Replays (fun _ _ _ => True) {}
        (tiedInputs ++ [(2, .updateStorageClass ⟨"docs", "a", 1⟩)]) answers last ∧
      Replays (fun _ _ _ => True) {}
        (tiedInputs ++ [(2, .updateStorageClass ⟨"docs", "a", 1⟩)]) answers last' ∧
      (last.objects.get ⟨"docs", "a", some "v1"⟩).map ObjectMetadata.storageClass = some 1 ∧
      (last'.objects.get ⟨"docs", "a", some "v1"⟩).map ObjectMetadata.storageClass = some 0 := by
  have filled : Replays (fun _ _ _ => True) {} tiedInputs [.ok (), .ok (), .ok ()]
      (replayed tiedInputs {}) :=
    .apply (.apply (.apply (.start _) (MetadataState.equiv_refl _) trivial rfl)
      (MetadataState.equiv_refl _) trivial rfl) (MetadataState.equiv_refl _) trivial rfl
  -- A copy may visit the two versions in the other order.
  have reversed : replayed tiedInputs {} ≈ tiedReversed :=
    { MetadataState.equiv_refl (replayed tiedInputs {}) with
      objects := HashMap.equiv_of_perm (List.reverse_perm _).symm }
  exact ⟨(applyCommand 2 (replayed tiedInputs {}) (.updateStorageClass ⟨"docs", "a", 1⟩)).2,
    (applyCommand 2 tiedReversed (.updateStorageClass ⟨"docs", "a", 1⟩)).2, _,
    filled.apply (MetadataState.equiv_refl _) trivial rfl, filled.apply reversed trivial rfl,
    by decide +kernel, by decide +kernel⟩

/-- What is stored of a version is what was put under it, after the class of the key is changed. -/
theorem content_follows_uploads_versions :
    ((applyCommand 2 (replayed tiedInputs {}) (.updateStorageClass ⟨"docs", "a", 1⟩)).2.objects.get
        ⟨"docs", "a", some "v1"⟩).map ObjectMetadata.content =
      some (ObjectMetadata.stamped 1
        { bucket := "docs", key := "a", versionId := some "v1" }).content := by
  have ran : Replays (fun _ _ _ => True) {}
      (tiedInputs ++ [(2, .updateStorageClass ⟨"docs", "a", 1⟩)])
      ([.ok (), .ok (), .ok ()] ++ [.ok ()]) _ :=
    .apply (.apply (.apply (.apply (.start _) (MetadataState.equiv_refl _) trivial rfl)
      (MetadataState.equiv_refl _) trivial rfl) (MetadataState.equiv_refl _) trivial rfl)
      (MetadataState.equiv_refl _) trivial rfl
  exact (content_follows_uploads ran ⟨"docs", "a", some "v1"⟩).trans (by decide +kernel)

end ColdStore
