import ColdStore.Proofs.Restart

/-! The copy of the catalogue below the service follows it, once both have started alike. -/

namespace ColdStore

open Rust MetadataService

section

variable [KeyValueStore]

/-- The snapshot in the store below the service. -/
def MetadataService.storedSnapshot (svc : MetadataService) : Option Bytes :=
  match svc.raftBackend with
  | some { inner := .persistent node, .. } => node.storage.get snapshotKey
  | _ => none

/--
The service and the state machine below it start from the same state.

This is so when the store holds a snapshot with something in it, or the snapshot file has nothing
to add to the empty store.
-/
def StartsAlike (platform : Platform) (db : RocksDb) (file : Option Bytes) : Prop :=
  (∃ stored, db.loadStateMachineSnapshot platform = .ok (some stored) ∧ stored.isEmpty = false) ∨
    file = none ∨
    ∃ bytes read, file = some bytes ∧ decodeSnapshot platform.codecs bytes = .ok read ∧
      read.isEmpty = true

/-- The state machine below the service has the same state as the service. -/
def Mirrored (svc : MetadataService) : Prop :=
  ∃ backend node file, svc.raftBackend = some backend ∧ backend.inner = .persistent node ∧
    svc.snapshotFile = some file ∧ node.stateMachine ≈ svc.state

/-- The stored snapshot was written from a state equal to the one served. -/
def Replicated (platform : Platform) (svc : MetadataService) : Prop :=
  ∃ stored, svc.storedSnapshot = some (encodeSnapshot platform.codecs stored) ∧ stored ≈ svc.state

variable {after : MetadataService}

theorem Mirrored.reordered {before : MetadataService} (mirrored : Mirrored before)
    (reordered : before.Reordered after) : Mirrored after := by
  obtain ⟨backend, node, file, raft, inner, path, same⟩ := mirrored
  have kept := reordered.raftBackend
  rw [raft] at kept
  cases found : after.raftBackend with
  | none => simp [found] at kept
  | some next =>
    rw [found] at kept
    -- The storage behind the backend stays what it was, with its maps in another order.
    cases mode : next.inner with
    | memory => simp [RaftBackendMode.Reordered, inner, mode] at kept
    | persistent other =>
      simp only [RaftBackendMode.Reordered, inner, mode] at kept
      refine ⟨next, other, file, found, mode, by rw [reordered.snapshotFile, path], ?_⟩
      exact MetadataState.equiv_trans kept.2.2 (MetadataState.equiv_trans same
        (MetadataState.equiv_symm reordered.state))

variable {platform : Platform}

theorem Replicated.reordered {before : MetadataService} (replicated : Replicated platform before)
    (reordered : before.Reordered after) : Replicated platform after := by
  obtain ⟨stored, found, same⟩ := replicated
  have file : after.storedSnapshot = before.storedSnapshot := by
    -- Reordering never touches the store.
    have kept := reordered.raftBackend
    rcases old : before.raftBackend with _ | ⟨inner, proposed⟩ <;>
      rcases new : after.raftBackend with _ | ⟨next, committed⟩ <;>
        simp only [old, new] at kept
    · simp [storedSnapshot, old, new]
    · cases inner <;> cases next <;> simp_all [storedSnapshot, RaftBackendMode.Reordered,
        LocalSingleNodeMetadataRaft.Reordered]
  exact ⟨stored, file.trans found, MetadataState.equiv_trans same
    (MetadataState.equiv_symm reordered.state)⟩

/-- A command that both copies answer alike is applied to both, or to neither. -/
theorem Mirrored.command {svc : MetadataService} {clock : Nat} {cmd : MetadataCommand}
    {answer : Except Status Unit} (mirrored : Mirrored svc) (tieFree : svc.state.TieFree cmd)
    (applied : svc.applyAndPersist platform {} clock clock cmd = (answer, after)) :
    Mirrored after ∧ (answer = .ok () → Replicated platform after) ∧
      ∀ status, answer = .error status → after = svc := by
  obtain ⟨backend, node, file, raft, inner, path, same⟩ := mirrored
  have alike := applyCommand_congr (MetadataState.equiv_symm same) clock tieFree
  have atomic := applyCommand_atomic clock svc.state cmd
  rcases first : applyCommand clock svc.state cmd with ⟨result, s⟩
  rcases second : applyCommand clock node.stateMachine cmd with ⟨other, machine⟩
  simp only [first, second, Applied.Same] at alike
  obtain ⟨rfl, states⟩ := alike
  cases result with
  | error status =>
    -- The service refuses the command before anything below it hears of it.
    have unchanged : s = svc.state := by
      simpa [first] using atomic status (by rw [first])
    simp only [applyAndPersist, raft, RaftMetadataBackend.proposeLocalApply, first,
      Prod.mk.injEq] at applied
    have stays : after = svc := by rw [← applied.2, unchanged, ← raft]
    rw [stays, ← applied.1]
    exact ⟨⟨backend, node, file, raft, inner, path, same⟩, by simp, fun _ _ => rfl⟩
  | ok _ =>
    simp only [applyAndPersist, raft, RaftMetadataBackend.proposeLocalApply, first,
      RaftMetadataBackend.persistIfNeeded, inner, LocalSingleNodeMetadataRaft.propose, failing,
      second, persistLocked, path, Prod.mk.injEq] at applied
    obtain ⟨rfl, rfl⟩ := applied
    refine ⟨⟨_, _, _, rfl, rfl, rfl, MetadataState.equiv_symm states⟩, fun _ => ⟨machine, ?_,
      MetadataState.equiv_symm states⟩, by simp⟩
    simp [storedSnapshot, RocksDb.saveStateMachineSnapshot, RocksDb.get_put]

/-- In every run without ties the copies agree, and so does the snapshot after the first command. -/
theorem Mirrored.runs {first last : MetadataService} {commands : List MetadataCommand}
    (mirrored : Mirrored first) (ran : Runs platform MetadataState.TieFree first commands last) :
    Mirrored last ∧ (commands ≠ [] → Replicated platform last) := by
  induction ran with
  | start => exact ⟨mirrored, by simp⟩
  | acknowledged _ reordered admitted applied ih =>
    obtain ⟨next, saved, _⟩ := (ih.1.reordered reordered).command admitted applied
    exact ⟨next, fun _ => saved rfl⟩
  | rejected _ reordered admitted applied ih =>
    obtain ⟨next, _, stays⟩ := (ih.1.reordered reordered).command admitted applied
    rw [stays _ rfl] at next ⊢
    exact ⟨next, fun some => (ih.2 some).reordered reordered⟩

/-- A service that starts like the state machine below it has the same state. -/
theorem mirrored_of_startsAlike {db : RocksDb} {file : Option Bytes} {backend : RaftMetadataBackend}
    {svc : MetadataService} (opened : RaftMetadataBackend.newWithStorage platform db = .ok backend)
    (started : newWithSnapshotAndRaftBackend platform {} file backend = .ok svc)
    (alike : StartsAlike platform db file) : Mirrored svc := by
  simp only [RaftMetadataBackend.newWithStorage, LocalSingleNodeMetadataRaft.open,
    Rust.bind_eq_ok] at opened
  obtain ⟨node, ⟨loaded, stored, made⟩, built⟩ := opened
  cases made
  cases built
  -- The state the backend offers is the one its state machine was opened with.
  have offered : RaftMetadataBackend.bootstrappedState platform
      { inner := .persistent { storage := db, stateMachine := loaded.getD {} },
        proposedCommands := RocksDb.logEntryCount db } = .ok (some (loaded.getD {})) := by
    cases loaded <;> simp [RaftMetadataBackend.bootstrappedState,
      LocalSingleNodeMetadataRaft.snapshot, stored, Bind.bind, Except.bind, Pure.pure, Except.pure,
      Except.map]
  simp only [newWithSnapshotAndRaftBackend, offered, Bind.bind, Except.bind, Pure.pure, Except.pure,
    Option.getD_some] at started
  split at started
  · -- The store has something, and both copies start from it.
    cases started
    exact ⟨_, _, _, rfl, rfl, rfl, MetadataState.equiv_refl _⟩
  · rename_i nothing
    have empty : (loaded.getD {}).isEmpty = true := by simpa using nothing
    have blank := MetadataState.equiv_default_of_isEmpty empty
    rcases alike with ⟨s, found, full⟩ | absent | ⟨bytes, read, present, decoded, bare⟩
    · rw [stored] at found
      cases found
      simp [full] at empty
    · subst absent
      cases started
      exact ⟨_, _, _, rfl, rfl, rfl, blank⟩
    · subst present
      simp only [decoded, bare, if_true] at started
      cases started
      exact ⟨_, _, _, rfl, rfl, rfl, blank⟩

/--
After every acknowledged command the stored snapshot equals the state of the service.

Both copies must have started alike, and no command may have to choose between versions of a key
that were updated at the same time.
-/
theorem persistent_backend_agrees (platform : Platform) (db : RocksDb) (file : Option Bytes)
    (backend : RaftMetadataBackend) (first last : MetadataService) (commands : List MetadataCommand)
    (opened : RaftMetadataBackend.newWithStorage platform db = .ok backend)
    (started : newWithSnapshotAndRaftBackend platform {} file backend = .ok first)
    (alike : StartsAlike platform db file)
    (ran : Runs platform MetadataState.TieFree first commands last) (acknowledged : commands ≠ []) :
    ∃ stored, last.storedSnapshot = some (encodeSnapshot platform.codecs stored) ∧
      stored ≈ last.state :=
  ((mirrored_of_startsAlike opened started alike).runs ran).2 acknowledged

end

/-- Recording a tape never has to choose between versions of an object. -/
theorem tieFree_updateTape (s : MetadataState) (tape : TapeInfo) :
    s.TieFree (.updateTape tape) := by
  intro bucket key target
  cases target

/-- A service that found neither a store nor a snapshot file. -/
def freshStoreService : MetadataService where
  state := {}
  snapshotFile := some none
  raftBackend := some {
    inner := .persistent { storage := HashMap.empty, stateMachine := {} }, proposedCommands := 0 }

/-- The service after it was told about a tape. -/
def afterSecondTape (svc : MetadataService) : MetadataService :=
  (svc.applyAndPersist namedPlatform {} 0 0 (.updateTape { id := "TAPE-2" })).2

/-- The store has the second tape as soon as the service does. -/
theorem persistent_backend_agrees_freshStore :
    Runs namedPlatform MetadataState.TieFree freshStoreService [.updateTape { id := "TAPE-2" }]
        (afterSecondTape freshStoreService) ∧
      ∃ stored, (afterSecondTape freshStoreService).storedSnapshot
          = some (encodeSnapshot namedCodecs stored) ∧
        stored ≈ (afterSecondTape freshStoreService).state := by
  have applied : freshStoreService.applyAndPersist namedPlatform {} 0 0
      (.updateTape { id := "TAPE-2" }) = (.ok (), afterSecondTape freshStoreService) := rfl
  have ran : Runs namedPlatform MetadataState.TieFree freshStoreService
      [.updateTape { id := "TAPE-2" }] (afterSecondTape freshStoreService) :=
    .acknowledged (.start _) (.refl _) (tieFree_updateTape _ _) applied
  exact ⟨ran, persistent_backend_agrees namedPlatform HashMap.empty none _ _ _ _ rfl rfl
    (Or.inr (Or.inl rfl)) ran (by simp)⟩

/-- The snapshot file a service left behind before it was given a store. -/
def firstTapeFile : Bytes :=
  encodeSnapshot namedCodecs { tapes := HashMap.empty.insert "TAPE-1" { id := "TAPE-1" } }

/-- A service that takes its state from the file, over a store that had nothing. -/
def bootstrappedService : MetadataService where
  state := { tapes := HashMap.empty.insert "TAPE-1" { id := "TAPE-1" } }
  snapshotFile := some (some firstTapeFile)
  raftBackend := some {
    inner := .persistent {
      storage := HashMap.empty.insert snapshotKey firstTapeFile, stateMachine := {} },
    proposedCommands := 0 }

/--
The state machine below a bootstrapped service never learns what was in the file.

The next acknowledged command overwrites the stored snapshot with a state that lacks it.
-/
theorem persistent_backend_forgets_file :
    ∃ backend bytes stored, RaftMetadataBackend.newWithStorage namedPlatform HashMap.empty = .ok backend ∧
      newWithSnapshotAndRaftBackend namedPlatform {} (some firstTapeFile) backend
        = .ok bootstrappedService ∧ Runs namedPlatform MetadataState.TieFree bootstrappedService
        [.updateTape { id := "TAPE-2" }] (afterSecondTape bootstrappedService) ∧
      (afterSecondTape bootstrappedService).storedSnapshot = some bytes ∧
      decodeSnapshot namedCodecs bytes = .ok stored ∧ stored.tapes.get "TAPE-1" = none ∧
      (afterSecondTape bootstrappedService).state.tapes.get "TAPE-1" = some { id := "TAPE-1" } := by
  have applied : bootstrappedService.applyAndPersist namedPlatform {} 0 0
      (.updateTape { id := "TAPE-2" }) = (.ok (), afterSecondTape bootstrappedService) := rfl
  exact ⟨_, _, _, rfl, rfl, .acknowledged (.start _) (.refl _) (tieFree_updateTape _ _) applied,
    rfl, rfl, rfl, rfl⟩

end ColdStore
