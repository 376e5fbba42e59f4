import ColdStore.Metadata.Effects

/-! What a command does to the objects: uploads and deletions decide what is stored. -/

namespace ColdStore

open Rust

/-- What was uploaded of an object, without the marks that archiving and restoring leave on it. -/
def ObjectMetadata.content (obj : ObjectMetadata) : ObjectMetadata :=
  { obj with
    storageClass := 0, archiveId := none, tapeId := none, tapeSet := [], tapeBlockOffset := none,
    restoreStatus := none, restoreExpireAt := none, updatedAt := none }

/-- An object as an upload stores it. -/
def ObjectMetadata.stamped (clock : Nat) (obj : ObjectMetadata) : ObjectMetadata :=
  { obj with
    createdAt := obj.createdAt.or (some (nowTimestamp clock)),
    updatedAt := some (nowTimestamp clock) }

/-- The content at a place behind a command that is accepted. -/
def MetadataCommand.contentAt (clock : Nat) (place : ObjectKey) (content : Option ObjectMetadata) :
    MetadataCommand → Option ObjectMetadata
  | .putObject obj =>
    if place = obj.objectKey then some (obj.stamped clock).content else content
  | .deleteObject req =>
    if place = ⟨req.bucket, req.key, none⟩ then none else content
  | _ => content

/-- Everything a command can do to the objects. -/
inductive ObjectEffect (clock : Nat) (cmd : MetadataCommand) (before : MetadataState)
    (applied : Applied) : Prop where
  /-- Nothing has changed, and no upload or deletion was accepted. -/
  | kept (silent : applied.1 = .ok () →
        ∀ place content, cmd.contentAt clock place content = content)
      (same : applied.2.objects = before.objects)
  | put (obj : ObjectMetadata) (sent : cmd = .putObject obj)
      (same : applied.2.objects = before.objects.insert obj.objectKey (obj.stamped clock))
  | deleted (req : DeleteObjectRequest) (sent : cmd = .deleteObject req)
      (same : applied.2.objects = before.objects.remove ⟨req.bucket, req.key, none⟩)
  /-- An object is marked in place. -/
  | marked (place : ObjectKey) (old changed : ObjectMetadata)
      (stored : before.objects.get place = some old) (content : changed.content = old.content)
      (stamp : changed.updatedAt = some (nowTimestamp clock))
      (status : changed.restoreStatus = old.restoreStatus ∨
        ∃ req, cmd = .updateRestoreStatus req ∧ place.bucket = req.bucket ∧
          place.key = req.key ∧ changed.restoreStatus = some req.status)
      (silent : ∀ place content, cmd.contentAt clock place content = content)
      (same : applied.2.objects = before.objects.update place changed)

/-- An object that is found and marked keeps its content. -/
theorem ObjectEffect.of_found {clock : Nat} {cmd : MetadataCommand} {before : MetadataState}
    {applied : Applied} {bucket key : String} {versionId : Option String}
    {found : ObjectKey × ObjectMetadata} {changed : ObjectMetadata}
    (searched : findObjectMut before bucket key versionId = .ok found)
    (same : applied.2.objects = before.objects.update found.1 changed)
    (content : changed.content = found.2.content)
    (stamp : changed.updatedAt = some (nowTimestamp clock))
    (silent : ∀ place content, cmd.contentAt clock place content = content)
    (status : changed.restoreStatus = found.2.restoreStatus ∨
      ∃ req, cmd = .updateRestoreStatus req ∧ bucket = req.bucket ∧
        key = req.key ∧ changed.restoreStatus = some req.status) :
    ObjectEffect clock cmd before applied := by
  obtain ⟨stored, rfl, rfl⟩ := findObjectMut_stored searched
  exact .marked found.1 found.2 changed stored content stamp status silent same

open Applied in
/-- A command does one of these things. -/
theorem applyCommand_objects (clock : Nat) (s : MetadataState) (cmd : MetadataCommand) :
    ObjectEffect clock cmd s (applyCommand clock s cmd) := by
  have framed := applyCommand_framed clock s cmd
  cases cmd with
  | putObject obj =>
    simp only [applyCommand, putObject]
    split
    · exact .put obj rfl (refreshBucketStats_objects _ _)
    · exact .kept (fun accepted => by cases accepted) rfl
  | deleteObject req =>
    simp only [applyCommand, deleteObject]
    split
    · exact .deleted req rfl (refreshBucketStats_objects _ _)
    · exact .kept (fun accepted => by cases accepted) rfl
  | updateStorageClass _ | updateArchiveLocation _ =>
    refine given_of (fun _ => .kept (fun _ _ _ => rfl) rfl) fun found searched => ?_
    exact .of_found searched rfl rfl rfl (fun _ _ => rfl) (.inl rfl)
  | updateRestoreStatus req =>
    refine given_of (fun _ => .kept (fun _ _ _ => rfl) rfl) fun found searched =>
      given_of (fun _ => .kept (fun _ _ _ => rfl) rfl) fun _ _ => ?_
    exact .of_found searched rfl rfl rfl (fun _ _ => rfl) (.inr ⟨req, rfl, rfl, rfl, rfl⟩)
  | completeArchiveObject req =>
    obtain same | ⟨bundle, place, obj, _, _, _, found, after⟩ :=
      completeArchiveObject_cases (nowTimestamp clock) req s
    · exact .kept (fun _ _ _ => rfl) (congrArg MetadataState.objects same)
    -- The bundle that is stored first leaves the objects alone.
    · have objects := (congrArg MetadataState.objects after).trans
        (congrArg (HashMap.update · place _) (storeBundle_objects s bundle))
      exact .of_found found objects rfl rfl (fun _ _ => rfl) (.inl rfl)
  | _ =>
    -- The other commands are about other maps.
    exact .kept (fun _ _ _ => rfl) (framed.objects rfl)

/-- A command that is accepted leaves the content it is about, and no other, at every place. -/
theorem ObjectEffect.content_eq {clock : Nat} {cmd : MetadataCommand} {before : MetadataState}
    {applied : Applied} (effect : ObjectEffect clock cmd before applied)
    (accepted : applied.1 = .ok ()) (place : ObjectKey) :
    (applied.2.objects.get place).map ObjectMetadata.content =
      cmd.contentAt clock place ((before.objects.get place).map ObjectMetadata.content) := by
  cases effect with
  | kept silent same => rw [same, silent accepted]
  | put obj sent same =>
    rw [same, sent, HashMap.get_insert, MetadataCommand.contentAt]
    split <;> rfl
  | deleted req sent same =>
    rw [same, sent, HashMap.get_remove, MetadataCommand.contentAt]
    split <;> rfl
  | marked other old changed stored content _ _ silent same =>
    rw [same, silent, HashMap.get_update]
    split
    · rename_i here
      rw [here, stored, Option.map_some, Option.map_some, Option.map_some, content]
    · rfl

end ColdStore
