import ColdStore.Metadata.Effects
import ColdStore.Metadata.History

/-! Records over whole histories of commands: what is final, what may follow, what goes unnoticed. -/

namespace ColdStore

open Rust Process Relation

/-! Bundles: a completed one is final, unless it is put again. -/

/-- A command puts nothing else in the place of a bundle. -/
def SparesBundle (id : String) (bundle : ArchiveBundle) (clock : Nat) (_ : MetadataState)
    (cmd : MetadataCommand) : Prop :=
  ∀ other, cmd = .putArchiveBundle other → other.id = id → other.stamped clock = bundle

/-- A completed bundle stays as it is, as long as no other bundle is put under its id. -/
theorem completed_bundle_final {id : String} {bundle : ArchiveBundle} {first last : MetadataState}
    (stored : first.archiveBundles.get id = some bundle)
    (completed : bundle.status = ArchiveBundleStatus.bundleCompleted.number)
    (later : ReflTransGen (Commanded (SparesBundle id bundle)) first last) :
    last.archiveBundles.get id = some bundle := by
  induction later with
  | refl => exact stored
  | tail _ step ih =>
    obtain ⟨clock, found, cmd, reordered, spared, rfl⟩ := step
    have there : found.archiveBundles.get id = some bundle :=
      (reordered.archiveBundles id).symm.trans ih
    -- A completed bundle is left alone by every command but a put under its own name.
    obtain kept | ⟨other, sent, named, put⟩ :=
      (applyCommand_bundles clock found cmd).completed_kept there completed
    · exact kept
    · rw [put, spared other sent named]

/-- A bundle of one object, in the given status. -/
def bundleIn (status : ArchiveBundleStatus) : ArchiveBundle :=
  { id := "bundle-1", tapeId := "TAPE-1", status := status.number, createdAt := some ⟨3, 0⟩ }

/-- The catalogue after the bundle was put. -/
def withBundle (status : ArchiveBundleStatus) : MetadataState :=
  (applyCommand 3 {} (.putArchiveBundle (bundleIn status))).2

/-- A completed bundle is not moved back to waiting. -/
theorem completed_bundle_final_refused :
    (withBundle .bundleCompleted).archiveBundles.get "bundle-1" = some (bundleIn .bundleCompleted) ∧
      (applyCommand 4 (withBundle .bundleCompleted) (.updateArchiveBundleStatus
        ⟨"bundle-1", ArchiveBundleStatus.bundlePending.number⟩)).2.archiveBundles.get "bundle-1" =
          some (bundleIn .bundleCompleted) := by
  have stored : (withBundle .bundleCompleted).archiveBundles.get "bundle-1" =
      some (bundleIn .bundleCompleted) := by decide
  refine ⟨stored, completed_bundle_final stored rfl (.single ?_)⟩
  exact ⟨4, _, _, MetadataState.equiv_refl _, by rintro other ⟨⟩, rfl⟩

/-- A completed bundle is overwritten by a bundle that is put under its id. -/
theorem completed_bundle_replaced :
    (withBundle .bundleCompleted).archiveBundles.get "bundle-1" = some (bundleIn .bundleCompleted) ∧
      (applyCommand 4 (withBundle .bundleCompleted)
        (.putArchiveBundle (bundleIn .bundlePending))).2.archiveBundles.get "bundle-1" =
          some (bundleIn .bundlePending) := by
  decide

/-! Tasks: once there, always there, and moving on only where they may go. -/

/-- What a task goes through in the states of a history. -/
structure TaskKind.LifeCycle {τ : Type} (kind : TaskKind τ) (states : List MetadataState)
    (id : String) : Prop where
  /-- A task that is there is there in every later state. -/
  kept : states.Pairwise fun earlier later =>
    (kind.record id earlier).isSome → (kind.record id later).isSome
  /-- The records it has had form a path. -/
  path : (states.filterMap (kind.record id)).IsChain fun current next =>
    next = current ∨ kind.follows current next

variable {states : List MetadataState}

/-- A kind of task whose records do not depend on the order of the maps has a life cycle. -/
theorem TaskKind.lifeCycle {τ : Type} (kind : TaskKind τ) {id : String}
    (past : (states.map (kind.record id)).IsChain (Continues kind.follows)) :
    kind.LifeCycle states id where
  kept := by
    refine (List.pairwise_map.mp (descends_of_isChain past)).imp ?_
    intro earlier later descends present
    obtain ⟨current, stored⟩ := Option.isSome_iff_exists.mp present
    obtain ⟨next, there, _⟩ := descends current stored
    rw [there, Option.isSome_some]
  path := by
    have path := path_of_isChain past
    rwa [List.filterMap_map] at path

/-- A record that nothing follows is the record in every later state. -/
theorem TaskKind.final_of_history {τ : Type} (kind : TaskKind τ) {id : String}
    (past : (states.map (kind.record id)).IsChain (Continues kind.follows)) {final : τ → Prop}
    (closed : ∀ task next, final task → ¬ kind.follows task next) :
    states.Pairwise fun earlier later => ∀ task, kind.record id earlier = some task → final task →
      kind.record id later = some task := by
  refine (List.pairwise_map.mp (descends_of_isChain past)).imp ?_
  intro earlier later descends task stored isFinal
  obtain ⟨next, there, walked⟩ := descends task stored
  rw [there, eq_of_descends (fun other => closed task other isFinal) walked]

/-- What a completed recall task leads to is the task itself or an expired one. -/
theorem recallTask_of_completed {task next : RecallTask}
    (completed : task.status = RestoreStatus.restoreCompleted.number)
    (walked : ReflTransGen recallTaskKind.follows task next) :
    next = task ∨ next.status = RestoreStatus.restoreExpired.number := by
  induction walked with
  | refl => exact .inl rfl
  | tail _ step ih =>
    obtain rfl | expired := ih
    · obtain ⟨later, known, may⟩ := recallTask_follows completed step
      obtain rfl : later = .restoreExpired := by
        cases later <;> first | rfl | cases may
      exact .inr (tryFrom_eq_some.mp known)
    · -- Nothing follows an expired task.
      obtain ⟨later, _, may⟩ := recallTask_follows expired step
      cases may

/--
Tasks of both kinds keep their life cycles through every history of commands.

Completed archive tasks and failed or expired recall tasks never change again, and a completed
recall task can only expire.
-/
theorem task_life_cycle {states : List MetadataState}
    (past : states.IsChain (Commanded fun _ _ _ => True)) (id : String) :
    archiveTaskKind.LifeCycle states id ∧ recallTaskKind.LifeCycle states id ∧
    (states.Pairwise fun earlier later => ∀ task, earlier.archiveTasks.get id = some task →
      task.status = ArchiveTaskStatus.archiveTaskCompleted.number →
        later.archiveTasks.get id = some task) ∧
    (states.Pairwise fun earlier later => ∀ task, earlier.recallTasks.get id = some task →
      task.status = RestoreStatus.restoreFailed.number ∨
        task.status = RestoreStatus.restoreExpired.number → later.recallTasks.get id = some task) ∧
    (states.Pairwise fun earlier later => ∀ task, earlier.recallTasks.get id = some task →
      task.status = RestoreStatus.restoreCompleted.number →
        ∃ next, later.recallTasks.get id = some next ∧
          (next = task ∨ next.status = RestoreStatus.restoreExpired.number)) := by
  have archives := archiveTaskKind.history id (fun same => (same.archiveTasks id).symm) past
  have recalls := recallTaskKind.history id (fun same => (same.recallTasks id).symm) past
  -- The histories of the two kinds of records decide everything, and only the tables differ.
  refine ⟨archiveTaskKind.lifeCycle archives, recallTaskKind.lifeCycle recalls, ?_, ?_, ?_⟩
  · exact archiveTaskKind.final_of_history archives fun task next => archiveTask_completed_final
  · refine recallTaskKind.final_of_history recalls fun task next ended follows => ?_
    obtain failed | expired := ended
    · obtain ⟨later, _, may⟩ := recallTask_follows failed follows
      cases may
    · obtain ⟨later, _, may⟩ := recallTask_follows expired follows
      cases may
  · refine (List.pairwise_map.mp (descends_of_isChain recalls)).imp ?_
    intro earlier later descends task stored completed
    obtain ⟨next, there, walked⟩ := descends task stored
    exact ⟨next, there, recallTask_of_completed completed walked⟩

/-- A recall task that is completed when it is put, and expires. -/
theorem task_life_cycle_expiring :
    let task : RecallTask := { id := "recall-1", status := RestoreStatus.restoreCompleted.number }
    let expired := { task with status := RestoreStatus.restoreExpired.number }
    let first := (applyCommand 5 {} (.putRecallTask task)).2
    let last := (applyCommand 6 first (.updateRecallTask expired)).2
    (first.recallTasks.get "recall-1").map RecallTask.status =
        some RestoreStatus.restoreCompleted.number ∧
      last.recallTasks.get "recall-1" = some expired ∧
      recallTaskKind.LifeCycle [{}, first, last] "recall-1" := by
  intro task expired first last
  have order : ∀ s : MetadataState, s ≈ s := MetadataState.equiv_refl
  have put : Commanded (fun _ _ _ => True) {} first :=
    ⟨5, {}, .putRecallTask task, order _, trivial, rfl⟩
  have updated : Commanded (fun _ _ _ => True) first last :=
    ⟨6, first, .updateRecallTask expired, order _, trivial, rfl⟩
  have past := List.IsChain.cons_cons put (.cons_cons updated (.singleton last))
  exact ⟨by decide, by decide, (task_life_cycle past "recall-1").2.1⟩

/-! Objects: an archived generation is the one that was read, unless a change fell into its second. -/

/-- Every object carries the time of a command that is not later than the clock. -/
def Dated.Aged (dated : Dated) : Prop :=
  ∀ place obj, dated.state.objects.get place = some obj →
    ∃ second ≤ dated.clock, obj.updatedAt = some (nowTimestamp second)

variable {allowed : Nat → MetadataState → MetadataCommand → Prop} {before after : Dated}

/-- A command leaves an object as it was, or stamps it with the time of the command. -/
theorem Dated.Next.stored (next : before.Next allowed after) {place : ObjectKey}
    {obj : ObjectMetadata} (stored : after.state.objects.get place = some obj) :
    before.state.objects.get place = some obj ∨
      obj.updatedAt = some (nowTimestamp after.clock) := by
  obtain ⟨_, found, cmd, reordered, _, left⟩ := next
  have effect := applyCommand_record after.clock place found cmd
  rw [left] at effect
  -- The command finds the same records, perhaps in another order of iteration.
  cases effect with
  | kept same =>
    rw [same, ← reordered.objects place] at stored
    exact .inl stored
  | removed gone =>
    rw [stored] at gone
    cases gone
  | written other there stamp =>
    obtain rfl : obj = other := Option.some.inj (stored.symm.trans there)
    exact .inr stamp

/-- No command makes an object younger than the clock. -/
theorem Dated.Next.aged (next : before.Next allowed after) (aged : before.Aged) : after.Aged := by
  have onward := next.1
  intro place obj stored
  obtain old | stamped := next.stored stored
  · obtain ⟨second, earlier, stamp⟩ := aged place obj old
    exact ⟨second, by omega, stamp⟩
  · exact ⟨after.clock, Nat.le_refl _, stamped⟩

/-- Records stay under the identities they carry. -/
theorem Dated.Next.keysAgree (next : before.Next allowed after) (agree : before.state.KeysAgree) :
    after.state.KeysAgree := by
  obtain ⟨_, found, cmd, reordered, _, left⟩ := next
  rw [← left]
  exact applyCommand_keysAgree (keysAgree_of_equiv agree reordered) after.clock cmd

/-- The object that was stored in a second is gone, or another one was stored in a later second. -/
def Dated.Renewed (place : ObjectKey) (second : Nat) (dated : Dated) : Prop :=
  second < dated.clock ∧ ∀ obj, dated.state.objects.get place = some obj →
    ∃ later, second < later ∧ obj.updatedAt = some (nowTimestamp later)

/-- What was renewed once never carries the old time again. -/
theorem Dated.Next.renewed (next : before.Next allowed after) {place : ObjectKey} {second : Nat}
    (renewed : before.Renewed place second) : after.Renewed place second := by
  have onward := next.1
  obtain ⟨passed, later⟩ := renewed
  refine ⟨by omega, fun obj stored => ?_⟩
  obtain old | stamped := next.stored stored
  · exact later obj old
  · exact ⟨after.clock, by omega, stamped⟩

/-- A command that changes the record of an object does not fall into the second it was stored in. -/
def ChangesLater (obj : ObjectMetadata) (clock : Nat) (s : MetadataState)
    (cmd : MetadataCommand) : Prop :=
  (applyCommand clock s cmd).2.objects.get obj.objectKey ≠
      s.objects.get obj.objectKey → obj.updatedAt ≠ some (nowTimestamp clock)

/-- The record of an object is as it was, or it has been renewed. -/
def Dated.Tracks (obj : ObjectMetadata) (second : Nat) (dated : Dated) : Prop :=
  (dated.state.objects.get obj.objectKey = some obj ∧ second ≤ dated.clock) ∨
    dated.Renewed obj.objectKey second

theorem Dated.Next.tracks {obj : ObjectMetadata} (next : before.Next (ChangesLater obj) after)
    {second : Nat} (stamp : obj.updatedAt = some (nowTimestamp second))
    (tracks : before.Tracks obj second) : after.Tracks obj second := by
  obtain ⟨there, passed⟩ | renewed := tracks
  · have stamps : ∀ other, after.state.objects.get obj.objectKey = some other → _ :=
      fun _ => next.stored
    obtain ⟨onward, found, cmd, reordered, later, left⟩ := next
    rw [reordered.objects obj.objectKey] at there
    by_cases same : after.state.objects.get obj.objectKey = found.objects.get obj.objectKey
    · exact .inl ⟨same.trans there, by omega⟩
    · -- The record has changed, so the clock shows another second by now.
      have moved : second ≠ after.clock := by
        rintro rfl
        exact later (by rwa [left]) stamp
      refine .inr ⟨by omega, fun other stored => ?_⟩
      obtain old | stamped := stamps other stored
      · exact absurd (stored.trans (old.symm.trans (reordered.objects obj.objectKey))) same
      · exact ⟨after.clock, by omega, stamped⟩
  · exact .inr (next.renewed renewed)

/--
A completion that expects the object as it was read finds it unchanged since then.

Between the two, no change of the object may fall into the second the object was stored in.
-/
theorem completion_notices_change {read last : Dated} {seen found : MetadataState}
    {obj : ObjectMetadata} {req : CompleteArchiveObjectRequest} {clock : Nat}
    (reached : ReflTransGen (Dated.Next fun _ _ _ => True) ⟨0, {}⟩ read) (shown : read.state ≈ seen)
    (head : seen.headObject req.bucket req.key = .ok obj) (expects : req.Expects obj)
    (later : ReflTransGen (Dated.Next (ChangesLater obj)) read last)
    (reordered : last.state ≈ found)
    (completed : (applyCommand clock found (.completeArchiveObject req)).1 = .ok ()) :
    ∀ middle, ReflTransGen (Dated.Next (ChangesLater obj)) read middle →
      ReflTransGen (Dated.Next (ChangesLater obj)) middle last →
        middle.state.objects.get obj.objectKey = some obj := by
  -- Every record carries its own identity and the time of a command.
  have aged : read.Aged :=
    kept_along Dated.Aged (fun next => next.aged) reached fun place obj stored => by simp at stored
  have agree : read.state.KeysAgree :=
    kept_along (·.state.KeysAgree) (fun next => next.keysAgree) reached keysAgree_default
  have agreeLast : last.state.KeysAgree :=
    kept_along (·.state.KeysAgree) (fun next => next.keysAgree) later agree
  obtain ⟨there, bucket, key⟩ := findObject_keyed (keysAgree_of_equiv agree shown) head
  rw [← shown.objects obj.objectKey] at there
  obtain ⟨second, earlier, stamp⟩ := aged _ _ there
  intro middle first rest
  have tracked : middle.Tracks obj second :=
    kept_along (Dated.Tracks obj second) (fun next => next.tracks stamp) first
      (.inl ⟨there, earlier⟩)
  obtain ⟨same, _⟩ | renewed := tracked
  · exact same
  · -- A renewed record never shows the expected time again, so the completion was refused.
    exfalso
    obtain ⟨_, renewed⟩ := kept_along (Dated.Renewed obj.objectKey second)
      (fun next => next.renewed) rest renewed
    obtain ⟨_, _, current, _, again, _, searched, _⟩ := completeArchiveObject_ok completed
    have read : findObject found req.bucket req.key req.versionId = .ok current := by
      rw [findObject_eq, searched]
      rfl
    obtain ⟨stored, sameBucket, sameKey⟩ :=
      findObject_keyed (keysAgree_of_equiv agreeLast reordered) read
    have place : current.objectKey = obj.objectKey := by
      simp only [ObjectMetadata.objectKey, bucket, key, sameBucket, sameKey, ← again.versionId,
        expects.versionId]
    rw [place, ← reordered.objects obj.objectKey] at stored
    obtain ⟨late, after, written⟩ := renewed current stored
    rw [← again.updatedAt, expects.updatedAt, stamp, Option.some.injEq] at written
    have := Int.ofNat_inj.mp (congrArg Timestamp.seconds written)
    omega

/-- An object as it is stored in second five. -/
def objectOf (contentType : String) : ObjectMetadata where
  bucket := "docs"
  key := "a"
  size := 3
  checksum := "c"
  contentType := some contentType
  createdAt := some ⟨5, 0⟩
  updatedAt := some ⟨5, 0⟩

/-- The catalogue with that object. -/
def withObject (contentType : String) (s : MetadataState) : MetadataState :=
  (applyCommand 5 s (.putObject (objectOf contentType))).2

/-- A request that completes the archiving of that object. -/
def completesObject : CompleteArchiveObjectRequest where
  bucket := "docs"
  key := "a"
  versionId := none
  expectedSize := some 3
  expectedChecksum := some "c"
  expectedStorageClass := some 0
  expectedUpdatedAt := some ⟨5, 0⟩
  bundle := some (bundleIn .bundleCompleted)
  tapeBlockOffset := 0
  storageClass := StorageClass.cold.number

/-- An object is completed as it was read, while another one is stored and deleted within its second. -/
theorem completion_notices_change_untouched :
    let other : ObjectMetadata := { objectOf "text/plain" with key := "b" }
    let empty := (applyCommand 4 {} (.createBucket { name := "docs" })).2
    let stored := withObject "text/plain" empty
    let beside := (applyCommand 5 stored (.putObject other)).2
    let last := (applyCommand 5 beside (.deleteObject ⟨"docs", "b"⟩)).2
    stored.headObject "docs" "a" = .ok (objectOf "text/plain") ∧
      beside.objects.get other.objectKey = some other ∧ last.objects.get other.objectKey = none ∧
      (applyCommand 6 last (.completeArchiveObject completesObject)).1 = .ok () ∧
      beside.objects.get (objectOf "text/plain").objectKey = some (objectOf "text/plain") := by
  intro other empty stored beside last
  have order : ∀ s : MetadataState, s ≈ s := MetadataState.equiv_refl
  have created : Dated.Next (fun _ _ _ => True) ⟨0, {}⟩ ⟨4, empty⟩ :=
    ⟨by decide, {}, .createBucket { name := "docs" }, order _, trivial, rfl⟩
  have put : Dated.Next (fun _ _ _ => True) ⟨4, empty⟩ ⟨5, stored⟩ :=
    ⟨by decide, empty, .putObject (objectOf "text/plain"), order _, trivial, rfl⟩
  -- Neither command on the other object changes the record that was read.
  have added : Dated.Next (ChangesLater (objectOf "text/plain")) ⟨5, stored⟩ ⟨5, beside⟩ :=
    ⟨by decide, stored, .putObject other, order _, fun changed => absurd (by decide) changed, rfl⟩
  have removed : Dated.Next (ChangesLater (objectOf "text/plain")) ⟨5, beside⟩ ⟨5, last⟩ :=
    ⟨by decide, beside, .deleteObject ⟨"docs", "b"⟩, order _,
      fun changed => absurd (by decide) changed, rfl⟩
  have reached := (ReflTransGen.single created).tail put
  have head : stored.headObject "docs" "a" = .ok (objectOf "text/plain") := by decide
  have completed : (applyCommand 6 last (.completeArchiveObject completesObject)).1 = .ok () := by
    decide
  refine ⟨head, by decide, by decide, completed, ?_⟩
  exact completion_notices_change reached (order _) head ⟨rfl, rfl, rfl, rfl, rfl⟩
    ((ReflTransGen.single added).tail removed) (order _) completed _ (.single added)
    (.single removed)

/-- An object that is stored again within a second is completed as if it had not been. -/
theorem completion_misses_change :
    let empty := (applyCommand 4 {} (.createBucket { name := "docs" })).2
    let stored := withObject "text/plain" empty
    let again := withObject "text/html" stored
    stored.headObject "docs" "a" = .ok (objectOf "text/plain") ∧
      completesObject.Expects (objectOf "text/plain") ∧
      again.objects.get (objectOf "text/plain").objectKey = some (objectOf "text/html") ∧
      (applyCommand 5 again (.completeArchiveObject completesObject)).1 = .ok () := by
  exact ⟨by decide, ⟨rfl, rfl, rfl, rfl, rfl⟩, by decide, by decide⟩

end ColdStore
