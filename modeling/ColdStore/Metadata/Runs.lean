import ColdStore.Metadata.Congruence
import ColdStore.Metadata.Service

/-! Runs of the metadata service: commands one after the other, maps reordered in between. -/

namespace ColdStore

open Rust

variable [KeyValueStore]

/-- The same node, with the map of its state machine in another order. -/
def LocalSingleNodeMetadataRaft.Reordered (before after : LocalSingleNodeMetadataRaft) : Prop :=
  after.storage = before.storage ∧ after.stateMachine ≈ before.stateMachine

/-- The same backend, up to the order of the maps it holds in memory. -/
def RaftBackendMode.Reordered : RaftBackendMode → RaftBackendMode → Prop
  | .memory, .memory => True
  | .persistent before, .persistent after => before.Reordered after
  | _, _ => False

namespace MetadataService

/-- The same service, up to the order of the maps it holds in memory. -/
structure Reordered (before after : MetadataService) : Prop where
  state : after.state ≈ before.state
  snapshotFile : after.snapshotFile = before.snapshotFile
  raftBackend : match before.raftBackend, after.raftBackend with
    | none, none => True
    | some old, some new =>
      new.proposedCommands = old.proposedCommands ∧ old.inner.Reordered new.inner
    | _, _ => False

/-- Nothing has to change its order. -/
theorem Reordered.refl (svc : MetadataService) : svc.Reordered svc where
  state := MetadataState.equiv_refl _
  snapshotFile := rfl
  raftBackend := by
    cases svc.raftBackend with
    | none => trivial
    | some backend =>
      cases inner : backend.inner with
      | memory => simp [inner, RaftBackendMode.Reordered]
      | persistent node =>
        exact ⟨rfl, by rw [inner]; exact ⟨rfl, MetadataState.equiv_refl _⟩⟩

/--
A run of the service, with the commands it acknowledged.

Before every command each map may change its order, and storage never fails.
Both copies of the state read the same time for one command, which has to be allowed in the state
it finds.
-/
inductive Runs (platform : Platform) (allowed : MetadataState → MetadataCommand → Prop) :
    MetadataService → List MetadataCommand → MetadataService → Prop where
  | start (svc : MetadataService) : Runs platform allowed svc [] svc
  | acknowledged {first before found after : MetadataService} {commands : List MetadataCommand}
      {clock : Nat} {cmd : MetadataCommand} (ran : Runs platform allowed first commands before)
      (reordered : before.Reordered found) (admitted : allowed found.state cmd)
      (applied : found.applyAndPersist platform {} clock clock cmd = (.ok (), after)) :
      Runs platform allowed first (commands ++ [cmd]) after
  | rejected {first before found after : MetadataService} {commands : List MetadataCommand}
      {clock : Nat} {cmd : MetadataCommand} {status : Status}
      (ran : Runs platform allowed first commands before) (reordered : before.Reordered found)
      (admitted : allowed found.state cmd)
      (applied : found.applyAndPersist platform {} clock clock cmd = (.error status, after)) :
      Runs platform allowed first commands after

/-- Start again from what the service left behind. -/
def restart (platform : Platform) (svc : MetadataService) : Except String MetadataService :=
  newWithSnapshot platform (svc.snapshotFile.getD none)

/-! What one command does to the state, to the snapshot file and to the backend. -/

/-- A command on a service without a store below it either fails and changes nothing or is saved. -/
theorem applyAndPersist_memory (platform : Platform) (clock applied : Nat)
    {svc : MetadataService} {backend : RaftMetadataBackend} {file : Option Bytes}
    (path : svc.snapshotFile = some file) (raft : svc.raftBackend = some backend)
    (memory : backend.inner = .memory) (cmd : MetadataCommand) :
    match applyCommand clock svc.state cmd with
    | (.error status, _) =>
      svc.applyAndPersist platform {} clock applied cmd = (.error status, svc)
    | (.ok _, s) =>
      svc.applyAndPersist platform {} clock applied cmd = (.ok (), {
        state := s, snapshotFile := some (some (encodeSnapshot platform.codecs s)),
        raftBackend := some { backend with
          proposedCommands := min (backend.proposedCommands + 1) (2 ^ 64 - 1) } }) := by
  have atomic := applyCommand_atomic clock svc.state cmd
  cases outcome : applyCommand clock svc.state cmd with
  | mk answer s =>
    cases answer with
    | error status =>
      -- A refused command has left the state as it was, so nothing is to be persisted.
      have same : s = svc.state := by
        simpa [outcome] using atomic status (by rw [outcome])
      simp only [applyAndPersist, raft, RaftMetadataBackend.proposeLocalApply, outcome, same]
      cases svc
      simp_all
    | ok _ =>
      simp only [applyAndPersist, raft, RaftMetadataBackend.proposeLocalApply, outcome,
        RaftMetadataBackend.persistIfNeeded, memory, persistLocked, path, failing]

end MetadataService

end ColdStore
