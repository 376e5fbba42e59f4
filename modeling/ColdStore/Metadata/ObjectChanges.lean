import ColdStore.Metadata.Effects

/-! Commands that look an object up and change it where it is stored. -/

namespace ColdStore

open Rust

/-- A change of one object: which one it is about, what is checked, and what the object becomes. -/
structure ObjectChange where
  bucket : String
  key : String
  versionId : Option String := none
  /-- What is checked before the object is looked for. -/
  admitted : Except Status Unit := .ok ()
  /-- What becomes of the object that is found, unless it fails a check. -/
  rewrite : ObjectMetadata → Except Status ObjectMetadata
  /-- A bundle that is stored first. -/
  bundle : Option ArchiveBundle := none

namespace ObjectChange

variable (change : ObjectChange) (s : MetadataState)

/-- The catalogue with the bundle of a change. -/
def bundled : MetadataState := change.bundle.elim s (storeBundle s)

/-- The answer to a change, and the catalogue behind it. -/
def applied : Applied := .given change.admitted s fun _ =>
  .given (findObjectMut s change.bucket change.key change.versionId) s fun (place, obj) =>
  .given (change.rewrite obj) s fun changed =>
    (.ok (), (change.bundled s).writeObject place changed)

@[simp] theorem bundled_objects : (change.bundled s).objects = s.objects := by
  unfold bundled
  cases change.bundle with
  | none => rfl
  | some bundle => exact storeBundle_objects s bundle

end ObjectChange

/-- The change of an object that completes its archiving under a bundle. -/
def CompleteArchiveObjectRequest.objectChange (now : Timestamp)
    (stored : String → Option ArchiveBundle) (req : CompleteArchiveObjectRequest)
    (bundle : ArchiveBundle) : ObjectChange where
  bucket := req.bucket
  key := req.key
  versionId := req.versionId
  admitted := ensure (bundle.id != "") (.invalidArgument "archive bundle id is empty")
  rewrite obj := do
    validateCompleteArchivePreconditions obj req
    ensure ((stored bundle.id).all (· == bundle))
      (.alreadyExists "archive bundle already exists with different payload")
    pure (completedObject now req bundle obj)
  bundle := some bundle

/-- The change of an object that a command makes, if it is one of those that make one. -/
def MetadataCommand.objectChange (now : Timestamp) (stored : String → Option ArchiveBundle) :
    MetadataCommand → Option ObjectChange
  | .updateStorageClass req => some {
      bucket := req.bucket
      key := req.key
      rewrite := fun obj => .ok { obj with
        storageClass := req.storageClass
        updatedAt := some now } }
  | .updateArchiveLocation req => some {
      bucket := req.bucket
      key := req.key
      rewrite := fun obj => .ok { obj with
        archiveId := some req.archiveId
        tapeId := some req.tapeId
        tapeSet := req.tapeSet
        tapeBlockOffset := some req.tapeBlockOffset
        updatedAt := some now } }
  | .updateRestoreStatus req => some {
      bucket := req.bucket
      key := req.key
      rewrite := fun obj => do
        validateRestoreTransition obj.restoreStatus req.status
        pure { obj with
          restoreStatus := some req.status
          restoreExpireAt := req.expireAt
          updatedAt := some now } }
  | .completeArchiveObject req => some <| match req.bundle with
    | some bundle => req.objectChange now stored bundle
    | none => {
      bucket := req.bucket
      key := req.key
      versionId := req.versionId
      admitted := .error (.invalidArgument "missing archive bundle")
      rewrite := .ok }
  | _ => none

variable {s : MetadataState}

/-- A check that is passed is left behind. -/
theorem Applied.given_passed {α : Type} (value : α) (rest : α → Applied) :
    Applied.given (.ok value) s rest = rest value := rfl

/-- Checks in sequence may be made one by one. -/
theorem Applied.given_bind {α β : Type} (check : Except Status α) (next : α → Except Status β)
    (rest : β → Applied) : Applied.given (check >>= next) s rest =
      .given check s fun value => .given (next value) s rest := by
  cases check <;> rfl

/-- Completing an archive looks the object up twice, which makes no difference. -/
theorem completeArchiveObject_objectChange (now : Timestamp) {req : CompleteArchiveObjectRequest}
    {bundle : ArchiveBundle} (given : req.bundle = some bundle) :
    completeArchiveObject now req s =
      (req.objectChange now s.archiveBundles.get bundle).applied s := by
  simp only [completeArchiveObject, given, okOr, ObjectChange.applied, Applied.given_passed,
    Applied.given_bind, CompleteArchiveObjectRequest.objectChange, findObject_eq,
    findObjectMut_of_objects (storeBundle_objects s bundle)]
  -- What is found the second time is what passed the checks.
  cases findObjectMut s req.bucket req.key req.versionId <;> rfl

/-- A command that changes an object is applied as its change is. -/
theorem applyCommand_objectChange {clock : Nat} {cmd : MetadataCommand} {change : ObjectChange}
    (changes : cmd.objectChange (nowTimestamp clock) s.archiveBundles.get = some change) :
    applyCommand clock s cmd = change.applied s := by
  cases cmd with
  | updateStorageClass | updateArchiveLocation =>
    obtain rfl := Option.some.inj changes
    rfl
  | updateRestoreStatus req =>
    obtain rfl := Option.some.inj changes
    simp only [applyCommand, updateRestoreStatus, ObjectChange.applied, Applied.given_bind]
    rfl
  | completeArchiveObject req =>
    obtain rfl := Option.some.inj changes
    cases given : req.bundle with
    | some bundle => exact completeArchiveObject_objectChange _ given
    | none =>
      simp only [applyCommand, completeArchiveObject, given]
      rfl
  | _ => cases changes

end ColdStore
