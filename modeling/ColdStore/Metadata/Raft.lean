import ColdStore.Metadata.Apply
import ColdStore.Metadata.Snapshot

/-! The local write-ahead copy of the catalogue, and the backend that proposes commands to it. -/

namespace ColdStore

open Rust

/-- What the service gets from libraries: message codecs and the texts of commands and statuses. -/
structure Platform where
  codecs : MessageCodecs
  /-- The debugging text of a command, as it is logged. -/
  debugCommand : MetadataCommand → Bytes
  /-- The text of a status, as it is wrapped into another error. -/
  displayStatus : Status → String

/-- Failures of the storage below the service, each with the text of its error. -/
structure StorageFaults where
  appendLog : Option String := none
  saveSnapshot : Option String := none
  writeFile : Option String := none

/-- Fail with the given text, if there is one. -/
def failing (fault : Option String) : Except String Unit :=
  match fault with
  | some error => .error error
  | none => .ok ()

/-- The octets of `metadata:snapshot:latest`. -/
def snapshotKey : Bytes :=
  [109, 101, 116, 97, 100, 97, 116, 97, 58, 115, 110, 97, 112, 115, 104, 111, 116, 58,
    108, 97, 116, 101, 115, 116]

/-- The octets of `raft:log:`. -/
def logKeyPrefix : Bytes := [114, 97, 102, 116, 58, 108, 111, 103, 58]

/-- The place of a log entry, numbered with the most significant octet first. -/
def logKey (index : Nat) : Bytes := logKeyPrefix ++ (toLeBytes 8 index).reverse

/--
What the key-value store below the service does, as its library promises it.

A value is found under the key that it was last put under, and stored keys can be counted by their
beginning.
-/
class KeyValueStore where
  Db : Type
  get : Db → Bytes → Option Bytes
  put : Db → Bytes → Bytes → Db
  countFrom : Db → Bytes → Nat
  get_put : ∀ db key value other,
    get (put db key value) other = if other = key then some value else get db other
  countFrom_put : ∀ db key value start, countFrom (put db key value) start =
    countFrom db start + if start.isPrefixOf key && (get db key).isNone then 1 else 0
  countFrom_absent : ∀ db start, (∀ key, start.isPrefixOf key = true → get db key = none) →
    countFrom db start = 0

/-- A map in memory is such a store. -/
instance : KeyValueStore where
  Db := HashMap Bytes Bytes
  get := HashMap.get
  put := HashMap.insert
  countFrom db start := (db.keys.filter fun key => start.isPrefixOf key).length
  get_put db key value other := HashMap.get_insert db key other value
  countFrom_put db key value start := by
    cases stored : db.get key with
    | some old =>
      rw [((db.keys_insert_of_stored value (by rw [stored]; rfl)).filter _).length_eq]
      simp
    | none =>
      rw [((db.keys_insert_of_absent value stored).filter _).length_eq, List.filter_cons]
      cases start.isPrefixOf key <;> simp
  countFrom_absent db start absent := by
    rw [List.length_eq_zero_iff, List.filter_eq_nil_iff]
    intro key mem begins
    rw [HashMap.mem_keys, absent key begins] at mem
    cases mem

variable [KeyValueStore] (platform : Platform)

/-- The store that log entries and snapshots are kept in. -/
abbrev RocksDb : Type := KeyValueStore.Db

namespace RocksDb

abbrev get (db : RocksDb) (key : Bytes) : Option Bytes := KeyValueStore.get db key

abbrev put (db : RocksDb) (key value : Bytes) : RocksDb := KeyValueStore.put db key value

theorem get_put (db : RocksDb) (key value other : Bytes) :
    (db.put key value).get other = if other = key then some value else db.get other :=
  KeyValueStore.get_put db key value other

/-- Write a command behind its term. -/
def appendLogEntry (db : RocksDb) (index term : Nat) (command : MetadataCommand) : RocksDb :=
  db.put (logKey index) (toLeBytes 8 term ++ platform.debugCommand command)

/-- The number of log entries, which are the keys with the common beginning. -/
def logEntryCount (db : RocksDb) : Nat :=
  -- Keys are iterated in order from the beginning on, so none with it is missed.
  KeyValueStore.countFrom db logKeyPrefix

def saveStateMachineSnapshot (db : RocksDb) (s : MetadataState) : RocksDb :=
  db.put snapshotKey (encodeSnapshot platform.codecs s)

def loadStateMachineSnapshot (db : RocksDb) : Except String (Option MetadataState) :=
  match db.get snapshotKey with
  | none => .ok none
  | some bytes => (decodeSnapshot platform.codecs bytes).map some

end RocksDb

/-- A single node: its store, and the state machine it keeps in memory. -/
structure LocalSingleNodeMetadataRaft where
  storage : RocksDb
  stateMachine : MetadataState

namespace LocalSingleNodeMetadataRaft

/-- Start from the stored snapshot, or from nothing when there is none. -/
def «open» (db : RocksDb) : Except String LocalSingleNodeMetadataRaft := do
  let s ← db.loadStateMachineSnapshot platform
  pure { storage := db, stateMachine := s.getD {} }

/-- Log a command, apply it to the state machine and store the new snapshot. -/
def propose (faults : StorageFaults) (clock : Nat) (node : LocalSingleNodeMetadataRaft)
    (command : MetadataCommand) : Except String Nat × LocalSingleNodeMetadataRaft :=
  let index := node.storage.logEntryCount + 1
  match failing faults.appendLog with
  | .error error => (.error error, node)
  | .ok _ =>
    let logged := { node with
      storage := node.storage.appendLogEntry platform index 1 command }
    -- The log entry stays, whether or not the command is accepted.
    let (answer, machine) := applyCommand clock node.stateMachine command
    let applied := { logged with stateMachine := machine }
    match answer with
    | .error status => (.error (platform.displayStatus status), applied)
    | .ok _ =>
      match failing faults.saveSnapshot with
      | .error error => (.error error, applied)
      | .ok _ => (.ok index, { applied with
          storage := applied.storage.saveStateMachineSnapshot platform machine })

/-- The stored snapshot, or the state in memory when there is none. -/
def snapshot (node : LocalSingleNodeMetadataRaft) : Except String MetadataState := do
  let stored ← node.storage.loadStateMachineSnapshot platform
  pure (stored.getD node.stateMachine)

end LocalSingleNodeMetadataRaft

/-- Where proposed commands go besides the state of the service. -/
inductive RaftBackendMode where
  | memory
  | persistent (storage : LocalSingleNodeMetadataRaft)

/-- The backend and the index of the last proposed command. -/
structure RaftMetadataBackend where
  inner : RaftBackendMode
  proposedCommands : Nat

namespace RaftMetadataBackend

/-- A backend that keeps nothing. -/
def new : RaftMetadataBackend := { inner := .memory, proposedCommands := 0 }

/-- A backend over a store. -/
def newWithStorage (db : RocksDb) : Except String RaftMetadataBackend := do
  let storage ← LocalSingleNodeMetadataRaft.open platform db
  pure { inner := .persistent storage, proposedCommands := storage.storage.logEntryCount }

/-- The state to start the service from. -/
def bootstrappedState (backend : RaftMetadataBackend) : Except String (Option MetadataState) :=
  match backend.inner with
  | .memory => .ok none
  | .persistent storage => (storage.snapshot platform).map some

/-- Log a command if the backend is persistent, and return its index. -/
def persistIfNeeded (faults : StorageFaults) (clock : Nat) (backend : RaftMetadataBackend)
    (command : MetadataCommand) : Except Status (Option Nat) × RaftMetadataBackend :=
  match backend.inner with
  | .memory => (.ok none, backend)
  | .persistent storage =>
    let (answer, storage) := storage.propose platform faults clock command
    let backend := { backend with inner := .persistent storage }
    match answer with
    | .ok next => (.ok (some next), backend)
    | .error error => (.error (.internal error), backend)

/-- Apply a command to the state of the service first, and then log and apply it below. -/
def proposeLocalApply (faults : StorageFaults) (clock applied : Nat) (backend : RaftMetadataBackend)
    (s : MetadataState) (command : MetadataCommand) :
    Except Status Unit × MetadataState × RaftMetadataBackend :=
  -- The two copies read the clock separately.
  match applyCommand clock s command with
  | (.error status, s) => (.error status, s, backend)
  | (.ok _, s) =>
    match backend.persistIfNeeded platform faults applied command with
    | (.error status, backend) => (.error status, s, backend)
    | (.ok (some index), backend) => (.ok (), s, { backend with proposedCommands := index })
    | (.ok none, backend) =>
      -- The counter saturates at the largest unsigned 64-bit number.
      (.ok (), s, { backend with
        proposedCommands := min (backend.proposedCommands + 1) (2 ^ 64 - 1) })

/-- Store a state as the first snapshot, unless it is empty or there is a snapshot already. -/
def bootstrapStateIfEmpty (faults : StorageFaults) (backend : RaftMetadataBackend)
    (s : MetadataState) :
    Except Status RaftMetadataBackend :=
  if s.isEmpty then .ok backend
  else
    match backend.inner with
    | .memory => .ok backend
    | .persistent storage =>
      match storage.storage.loadStateMachineSnapshot platform with
      | .error error => .error (.internal error)
      | .ok (some _) => .ok backend
      | .ok none =>
        match failing faults.saveSnapshot with
        | .error error => .error (.internal error)
        | .ok _ => .ok { backend with inner := .persistent { storage with
            -- Only the store learns about the state: the state machine in memory keeps its own.
            storage := storage.storage.saveStateMachineSnapshot platform s } }

end RaftMetadataBackend

end ColdStore
