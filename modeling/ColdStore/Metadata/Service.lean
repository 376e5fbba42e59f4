import ColdStore.Metadata.Raft

/-! The metadata service: how it starts, and how it applies and persists commands. -/

namespace ColdStore

open Rust

variable [KeyValueStore]

/-- The state served to readers, and where it is kept besides. -/
structure MetadataService where
  state : MetadataState
  /-- The snapshot file, if the service has a path for one, and its contents, if it exists. -/
  snapshotFile : Option (Option Bytes)
  raftBackend : Option RaftMetadataBackend

namespace MetadataService

variable (platform : Platform)

omit [KeyValueStore] in
/-- Read the snapshot file, or start from nothing when it does not exist. -/
def loadFile (file : Option Bytes) : Except String MetadataState :=
  match file with
  | some bytes => decodeSnapshot platform.codecs bytes
  | none => .ok {}

def newWithSnapshot (file : Option Bytes) : Except String MetadataService := do
  let s ← loadFile platform file
  pure { state := s, snapshotFile := some file, raftBackend := some .new }

/-- Start from the backend, and from the snapshot file when the backend has nothing. -/
def newWithSnapshotAndRaftBackend (faults : StorageFaults) (file : Option Bytes)
    (backend : RaftMetadataBackend) : Except String MetadataService := do
  let raftState := (← backend.bootstrappedState platform).getD {}
  if !raftState.isEmpty then
    return { state := raftState, snapshotFile := some file, raftBackend := some backend }
  match file with
  | none => return { state := {}, snapshotFile := some file, raftBackend := some backend }
  | some bytes =>
    let snapshotState ← decodeSnapshot platform.codecs bytes
    if snapshotState.isEmpty then
      return { state := {}, snapshotFile := some file, raftBackend := some backend }
    match backend.bootstrapStateIfEmpty platform faults snapshotState with
    | .error status => throw (platform.displayStatus status)
    | .ok backend =>
      return { state := snapshotState, snapshotFile := some file, raftBackend := some backend }

/-- Write the state to the snapshot file, if there is a path for one. -/
def persistLocked (faults : StorageFaults) (service : MetadataService) :
    Except Status Unit × MetadataService :=
  match service.snapshotFile with
  | none => (.ok (), service)
  | some _ =>
    match failing faults.writeFile with
    | .error error => (.error (.internal ("persist metadata snapshot: " ++ error)), service)
    | .ok _ => (.ok (), { service with
        snapshotFile := some (some (encodeSnapshot platform.codecs service.state)) })

/-- Apply a command to every copy of the state, and then write the snapshot file. -/
def applyAndPersist (faults : StorageFaults) (clock applied : Nat) (service : MetadataService)
    (command : MetadataCommand) : Except Status Unit × MetadataService :=
  match service.raftBackend with
  | none => (.error (.internal "metadata raft backend is not initialized"), service)
  | some backend =>
    match backend.proposeLocalApply platform faults clock applied service.state command with
    | (.error status, s, backend) =>
      (.error status, { service with state := s, raftBackend := some backend })
    | (.ok _, s, backend) =>
      persistLocked platform faults { service with state := s, raftBackend := some backend }

end MetadataService

end ColdStore
