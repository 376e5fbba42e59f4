import ColdStore.Metadata.Congruence
import ColdStore.Metadata.Contents
import ColdStore.Metadata.Effects
import ColdStore.Metadata.Tasks
import ColdStore.Process.Lifetime

/-! What becomes of single records over a history of commands. -/

namespace ColdStore

open Rust Process

/-! Histories of the catalogue. -/

/-- One allowed command at any time of the clock, before which every map may change its order. -/
def Commanded (allowed : Nat → MetadataState → MetadataCommand → Prop)
    (before after : MetadataState) : Prop :=
  ∃ clock found cmd, before ≈ found ∧ allowed clock found cmd ∧
    (applyCommand clock found cmd).2 = after

/-- The catalogue at a time of the clock. -/
structure Dated where
  clock : Nat
  state : MetadataState

/-- One allowed command that is not earlier than the one before. -/
def Dated.Next (allowed : Nat → MetadataState → MetadataCommand → Prop)
    (before after : Dated) : Prop :=
  before.clock ≤ after.clock ∧ ∃ found cmd, before.state ≈ found ∧
    allowed after.clock found cmd ∧ (applyCommand after.clock found cmd).2 = after.state

/-! Bundles. -/

/-- A bundle as it is stored when it is put. -/
def ArchiveBundle.stamped (clock : Nat) (bundle : ArchiveBundle) : ArchiveBundle :=
  { bundle with createdAt := bundle.createdAt.or (some (nowTimestamp clock)) }

/-- What a command means for the bundles. -/
inductive BundleEffect (clock : Nat) (cmd : MetadataCommand) (before after : MetadataState) :
    Prop where
  /-- Nothing has changed. -/
  | kept (same : after.archiveBundles = before.archiveBundles)
  /-- A bundle was put, whatever was stored before. -/
  | put (bundle : ArchiveBundle) (sent : cmd = .putArchiveBundle bundle)
      (same : after.archiveBundles = before.archiveBundles.insert bundle.id (bundle.stamped clock))
  /-- A bundle that was not there came with an archived object. -/
  | archived (bundle : ArchiveBundle) (absent : before.archiveBundles.get bundle.id = none)
      (same : after.archiveBundles = before.archiveBundles.insert bundle.id bundle)
  /-- A bundle was moved to a status that may follow the old one. -/
  | moved (id : String) (old new : ArchiveBundle) (stored : before.archiveBundles.get id = some old)
      (may : validateArchiveBundleTransition old.status new.status = .ok ())
      (same : after.archiveBundles = before.archiveBundles.update id new)

variable (clock : Nat)

open Applied in
/-- Bundles change by being put, by being archived and by moving on. -/
theorem applyCommand_bundles (s : MetadataState) (cmd : MetadataCommand) :
    BundleEffect clock cmd s (applyCommand clock s cmd).2 := by
  have same : BundleEffect clock cmd s s := .kept rfl
  have framed := applyCommand_framed clock s cmd
  cases cmd with
  | completeArchiveObject req =>
    obtain same | ⟨bundle, _, _, _, _, _, _, after⟩ :=
      completeArchiveObject_cases (nowTimestamp clock) req s
    · exact .kept (congrArg MetadataState.archiveBundles same)
    -- The bundle that comes with the object is stored if it is new.
    · rw [applyCommand, after, storeBundle]
      split
      · exact .kept rfl
      · rename_i absent
        exact .archived bundle (by simpa [HashMap.containsKey] using absent) rfl
  | putArchiveBundle bundle => exact .put bundle rfl rfl
  | updateArchiveBundleStatus req =>
    refine given_keeps same fun bundle found => given_keeps same fun _ valid => ?_
    exact .moved req.id bundle _ ((okOr_eq_ok _ _ _).mp found) valid rfl
  | _ => exact .kept (framed.archiveBundles rfl)

/-- Nothing follows the status of a completed bundle. -/
theorem completedBundle_final {current next : Int}
    (completed : current = ArchiveBundleStatus.bundleCompleted.number) :
    validateArchiveBundleTransition current next ≠ .ok () := by
  intro valid
  rw [completed] at valid
  simp only [validateArchiveBundleTransition, validateTransition, bind_eq_ok, okOr_eq_ok,
    ensure_eq_ok] at valid
  obtain ⟨old, known, new, _, may⟩ := valid
  obtain rfl : ArchiveBundleStatus.bundleCompleted = old := Option.some.inj known
  cases may

variable {before : MetadataState}

/-- A completed bundle changes only by another one being put in its place. -/
theorem BundleEffect.completed_kept {clock : Nat} {cmd : MetadataCommand}
    {after : MetadataState} (effect : BundleEffect clock cmd before after) {id : String}
    {bundle : ArchiveBundle} (stored : before.archiveBundles.get id = some bundle)
    (completed : bundle.status = ArchiveBundleStatus.bundleCompleted.number) :
    after.archiveBundles.get id = some bundle ∨
      ∃ other, cmd = .putArchiveBundle other ∧ other.id = id ∧
        after.archiveBundles.get id = some (other.stamped clock) := by
  cases effect with
  | kept same => exact .inl (by rw [same, stored])
  | put other sent same =>
    by_cases named : other.id = id
    · exact .inr ⟨other, sent, named, by rw [same, named, HashMap.get_insert_self]⟩
    · exact .inl (by rw [same, HashMap.get_insert_ne _ _ (Ne.symm named), stored])
  | archived new absent same =>
    -- A bundle is entered by an archive only where none of its name is.
    have ne : id ≠ new.id := by
      rintro rfl
      simp [stored] at absent
    exact .inl (by rw [same, HashMap.get_insert_ne _ _ ne, stored])
  | moved place old new found may same =>
    -- Nothing may follow a completed bundle, so it is another one that moved.
    have ne : id ≠ place := by
      rintro rfl
      obtain rfl : bundle = old := Option.some.inj (stored.symm.trans found)
      exact completedBundle_final completed may
    exact .inl (by rw [same, HashMap.get_update_ne _ _ ne, stored])

/-! Objects. -/

/-- What a command means for the record of one object. -/
inductive RecordEffect (clock : Nat) (place : ObjectKey) (before after : MetadataState) : Prop where
  | kept (same : after.objects.get place = before.objects.get place)
  | removed (gone : after.objects.get place = none)
  /-- Whatever is written carries the time of the command. -/
  | written (obj : ObjectMetadata) (stored : after.objects.get place = some obj)
      (stamp : obj.updatedAt = some (nowTimestamp clock))

/-- A command keeps a record, removes it or stamps it. -/
theorem applyCommand_record (place : ObjectKey) (s : MetadataState) (cmd : MetadataCommand)
    : RecordEffect clock place s (applyCommand clock s cmd).2 := by
  cases applyCommand_objects clock s cmd with
  | kept _ same => exact .kept (by rw [same])
  | put obj _ same =>
    by_cases here : place = obj.objectKey
    · exact .written _ (by rw [same, here, HashMap.get_insert_self]) rfl
    · exact .kept (by rw [same, HashMap.get_insert_ne _ _ here])
  | deleted req _ same =>
    by_cases here : place = ⟨req.bucket, req.key, none⟩
    · exact .removed (by rw [same, here, HashMap.get_remove_self])
    · exact .kept (by rw [same, HashMap.get_remove_ne _ here])
  | marked other old changed stored _ stamp _ _ same =>
    by_cases here : place = other
    · exact .written changed (by rw [same, here, HashMap.get_update_of_some _ _ stored]) stamp
    · exact .kept (by rw [same, HashMap.get_update_ne _ _ here])

/-! Tasks. -/

section

variable {τ : Type}

/-- The task stored under an id. -/
def TaskKind.record (kind : TaskKind τ) (id : String) (s : MetadataState) : Option τ :=
  (kind.tasks s).get id

/-- A command keeps a task or replaces it by one that may follow it. -/
theorem TaskKind.continues (kind : TaskKind τ) (id : String) (clock : Nat) (s : MetadataState)
    (cmd : MetadataCommand) :
    Continues kind.follows (kind.record id s) (kind.record id (applyCommand clock s cmd).2) := by
  intro current present
  obtain kept | ⟨task, _, _, may, stored⟩ := (kind.effect clock s cmd).at_id present
  · exact ⟨current, kept, .inl rfl⟩
  · exact ⟨task, stored, .inr may⟩

end

/-- What a kind of task keeps from state to state, it keeps through a history. -/
theorem TaskKind.history {τ : Type} (kind : TaskKind τ) (id : String)
    (reorders : ∀ {before found : MetadataState}, before ≈ found →
      kind.record id found = kind.record id before)
    {allowed : Nat → MetadataState → MetadataCommand → Prop} {states : List MetadataState}
    (past : states.IsChain (Commanded allowed)) :
    (states.map (kind.record id)).IsChain (Continues kind.follows) := by
  refine List.isChain_map_of_isChain _ (fun before after step => ?_) past
  obtain ⟨clock, found, cmd, reordered, _, rfl⟩ := step
  rw [← reorders reordered]
  exact kind.continues id clock found cmd

/-- Nothing follows a completed archive task. -/
theorem archiveTask_completed_final {task next : ArchiveTask}
    (completed : task.status = ArchiveTaskStatus.archiveTaskCompleted.number) :
    ¬ archiveTaskKind.follows task next := by
  intro follows
  obtain ⟨old, new, known, _, may⟩ := validateArchiveTaskTransition_iff.mp follows
  rw [ArchiveTask.phase, completed] at known
  obtain rfl : ArchiveTaskStatus.archiveTaskCompleted = old := Option.some.inj known
  cases may

/-- What follows a recall task of a known status is of a status that may follow it. -/
theorem recallTask_follows {task next : RecallTask} {status : RestoreStatus}
    (known : task.status = status.number) (follows : recallTaskKind.follows task next) :
    ∃ later, tryFrom RestoreStatus next.status = some later ∧
      restoreMayFollow status later = true := by
  have valid : validateRestoreTransition (some task.status) next.status = .ok () := follows
  have read : tryFrom RestoreStatus status.number = some status := tryFrom_number status
  rw [known] at valid
  simp only [validateRestoreTransition, Option.bind_some, read, bind_eq_ok, okOr_eq_ok,
    ensure_eq_ok] at valid
  exact valid

end ColdStore
