import ColdStore.Metadata.Runs
import ColdStore.Proofs.Snapshot
import Mathlib.Data.Nat.Digits.Lemmas
import Mathlib.Tactic.IntervalCases

/-! A restart recovers the catalogue exactly as long as no section outgrew the reader's limit. -/

namespace ColdStore

open Rust MetadataService

/-- The snapshot file stands for a state. -/
inductive FileHolds (platform : Platform) : Option Bytes → MetadataState → Prop where
  /-- Nothing was recorded yet. -/
  | absent {s : MetadataState} (empty : ({} : MetadataState) ≈ s) : FileHolds platform none s
  /-- The file is still the one the service was started from. -/
  | loaded {bytes : Bytes} {read s : MetadataState}
    (decoded : decodeSnapshot platform.codecs bytes = .ok read) (same : read ≈ s) :
    FileHolds platform (some bytes) s
  /-- The file was written after a command. -/
  | saved {written s : MetadataState} (same : written ≈ s) :
    FileHolds platform (some (encodeSnapshot platform.codecs written)) s

variable {platform : Platform} {file : Option Bytes}

theorem FileHolds.of_equiv {left right : MetadataState} (holds : FileHolds platform file left)
    (same : left ≈ right) : FileHolds platform file right := by
  cases holds with
  | absent empty => exact .absent (MetadataState.equiv_trans empty same)
  | loaded decoded read => exact .loaded decoded (MetadataState.equiv_trans read same)
  | saved written => exact .saved (MetadataState.equiv_trans written same)

section

variable [KeyValueStore]

/-- The service keeps its state in a snapshot file and nowhere else. -/
structure FileBacked (platform : Platform) (svc : MetadataService) : Prop where
  raft : ∃ backend, svc.raftBackend = some backend ∧ backend.inner = .memory
  file : ∃ file, svc.snapshotFile = some file ∧ FileHolds platform file svc.state
  agree : svc.state.KeysAgree

theorem FileBacked.reordered {before after : MetadataService} (backed : FileBacked platform before)
    (reordered : before.Reordered after) : FileBacked platform after := by
  obtain ⟨backend, raft, memory⟩ := backed.raft
  obtain ⟨file, path, holds⟩ := backed.file
  have same := MetadataState.equiv_symm reordered.state
  refine ⟨?_, ⟨file, by rw [reordered.snapshotFile, path], holds.of_equiv same⟩,
    keysAgree_of_equiv backed.agree same⟩
  -- A backend in memory has nothing that could be reordered.
  have kept := reordered.raftBackend
  rw [raft] at kept
  cases found : after.raftBackend with
  | none => simp [found] at kept
  | some next =>
    rw [found] at kept
    refine ⟨next, rfl, ?_⟩
    cases inner : next.inner with
    | memory => rfl
    | persistent node => simp [RaftBackendMode.Reordered, memory, inner] at kept

/-- One command keeps the file up to date with the state, or changes neither. -/
theorem FileBacked.command {svc : MetadataService} (backed : FileBacked platform svc)
    (clock : Nat) (cmd : MetadataCommand) :
    FileBacked platform (svc.applyAndPersist platform {} clock clock cmd).2 := by
  obtain ⟨backend, raft, memory⟩ := backed.raft
  obtain ⟨file, path, holds⟩ := backed.file
  have outcome := applyAndPersist_memory platform clock clock path raft memory cmd
  have agree := applyCommand_keysAgree backed.agree clock cmd
  cases answered : applyCommand clock svc.state cmd with
  | mk answer s =>
    -- A refused command is not written, an accepted one is on file before the answer.
    cases answer with
    | error status =>
      simp only [answered] at outcome
      rw [outcome]
      exact backed
    | ok _ =>
      simp only [answered] at outcome agree
      rw [outcome]
      exact ⟨⟨_, rfl, memory⟩, ⟨_, rfl, .saved (MetadataState.equiv_refl _)⟩, agree⟩

/-- Every run keeps the file up to date with the state. -/
theorem FileBacked.runs {allowed : MetadataState → MetadataCommand → Prop}
    {first last : MetadataService} {commands : List MetadataCommand}
    (backed : FileBacked platform first) (ran : Runs platform allowed first commands last) :
    FileBacked platform last := by
  induction ran with
  | start => exact backed
  | @acknowledged _ _ _ _ clock cmd _ reordered _ applied ih
  | @rejected _ _ _ _ clock cmd _ _ reordered _ applied ih =>
    have kept := (ih.reordered reordered).command clock cmd
    rwa [applied] at kept

/-- A service that started from a file, or without one, is backed by it. -/
theorem FileBacked.of_newWithSnapshot {svc : MetadataService}
    (started : newWithSnapshot platform file = .ok svc) : FileBacked platform svc := by
  simp only [newWithSnapshot, Rust.bind_eq_ok] at started
  obtain ⟨s, loaded, made⟩ := started
  cases made
  cases file with
  | none =>
    cases loaded
    exact ⟨⟨_, rfl, rfl⟩, ⟨none, rfl, .absent (MetadataState.equiv_refl _)⟩, keysAgree_default⟩
  | some bytes =>
    exact ⟨⟨_, rfl, rfl⟩, ⟨some bytes, rfl, .loaded loaded (MetadataState.equiv_refl _)⟩,
      (decodeSnapshot_read loaded).2⟩

end

/-! Restarting reads the file, which succeeds as long as no section is too long for the reader. -/

/-- Restarting from a file that holds a state recovers it, within the limit and not beyond it. -/
theorem FileHolds.reads_iff {s : MetadataState} (holds : FileHolds platform file s)
    (agree : s.KeysAgree) (roundTrips : platform.codecs.All Codec.RoundTrips s)
    (fits : platform.codecs.All Codec.Fits s) (short : platform.codecs.All Codec.Short s) :
    (∃ read, loadFile platform file = .ok read ∧ read ≈ s) ↔ platform.codecs.Few s := by
  have few_perm : ∀ {M : Type} (_ : Codec M) (first second : List M), first.Perm second →
      first.length ≤ maxSnapshotMessagesPerSection →
        second.length ≤ maxSnapshotMessagesPerSection :=
    fun _ _ _ perm bound => perm.length_eq ▸ bound
  cases holds with
  | absent empty =>
    -- Nine empty sections are below every limit.
    have few : platform.codecs.Few {} := by
      simp [MessageCodecs.Few, MessageCodecs.All, HashMap.values, HashMap.empty]
    exact iff_of_true ⟨_, rfl, empty⟩ (MessageCodecs.all_of_equiv few_perm empty few)
  | loaded decoded same =>
    -- The file was read once already, so it can be read again.
    exact iff_of_true ⟨_, decoded, same⟩
      (MessageCodecs.all_of_equiv few_perm same (decodeSnapshot_read decoded).1)
  | @saved written _ same =>
    have back := MetadataState.equiv_symm same
    -- The order of the records plays no part in what is asked of them.
    have trips := MessageCodecs.all_of_equiv (fun _ _ _ perm holds message mem =>
      holds message (perm.mem_iff.mpr mem)) back roundTrips
    have room := MessageCodecs.all_of_equiv (fun _ _ _ perm holds => ⟨perm.length_eq ▸ holds.1,
      fun message mem => holds.2 message (perm.mem_iff.mpr mem)⟩) back fits
    have exactly := decodeSnapshot_eq_ok trips room
    constructor
    · rintro ⟨read, decoded, _⟩
      have within := ((exactly read).mp decoded).1
      exact MessageCodecs.all_of_equiv few_perm same
        (MessageCodecs.all_of_and (fun _ _ both _ => both.1) within within)
    · intro few
      have limits : platform.codecs.All Codec.WithinLimits s :=
        MessageCodecs.all_of_and (fun _ _ => And.intro) few short
      have within := MessageCodecs.all_of_equiv (fun _ _ _ perm limits =>
        ⟨perm.length_eq ▸ limits.1,
          fun message mem => limits.2 message (perm.mem_iff.mpr mem)⟩) back limits
      refine ⟨_, (exactly _).mpr ⟨within, rfl⟩, ?_⟩
      exact MetadataState.equiv_trans
        (MetadataState.recollected_equiv (keysAgree_of_equiv agree back)) same

/--
After any run a restart recovers the state exactly when every section keeps the reader's limit.

The limit is enforced by the reader alone, so a service acknowledges commands beyond it.
-/
theorem restart_recovers_iff [KeyValueStore] (platform : Platform) (file : Option Bytes)
    (commands : List MetadataCommand) (first last : MetadataService)
    (started : newWithSnapshot platform file = .ok first)
    (ran : Runs platform (fun _ _ => True) first commands last)
    (roundTrips : platform.codecs.All Codec.RoundTrips last.state)
    (fits : platform.codecs.All Codec.Fits last.state)
    (short : platform.codecs.All Codec.Short last.state) :
    (∃ again, restart platform last = .ok again ∧ again.state ≈ last.state) ↔
      platform.codecs.Few last.state := by
  have backed := (FileBacked.of_newWithSnapshot started).runs ran
  obtain ⟨held, path, holds⟩ := backed.file
  -- What a restart reads is the file, so the question is whether the file can be read.
  rw [← holds.reads_iff backed.agree roundTrips fits short]
  simp only [restart, path, Option.getD_some, newWithSnapshot, Rust.bind_eq_ok]
  constructor
  · rintro ⟨again, ⟨s, loaded, made⟩, same⟩
    cases made
    exact ⟨s, loaded, same⟩
  · rintro ⟨s, loaded, same⟩
    exact ⟨_, ⟨s, loaded, rfl⟩, same⟩

/-- A platform for records with an identity and otherwise defaults. -/
def namedPlatform : Platform where
  codecs := namedCodecs
  debugCommand _ := ("UpdateTape(TapeInfo \x7b id: \"TAPE-2\", barcode: None, format: \"\", " ++
    "status: Unspecified, location: None, capacity_bytes: 0, used_bytes: 0, remaining_bytes: 0, " ++
    "archive_bundle_ids: [], last_verified_at: None, error_count: 0, registered_at: None \x7d)"
      ).toList.map fun c => UInt8.ofNat c.toNat
  displayStatus status := status.message

/-- The service after its first command, which recorded a tape. -/
def oneTapeService : MetadataService where
  state := { tapes := HashMap.empty.insert "TAPE-1" { id := "TAPE-1" } }
  snapshotFile := some (some (encodeSnapshot namedCodecs
    { tapes := HashMap.empty.insert "TAPE-1" { id := "TAPE-1" } }))
  raftBackend := some { inner := .memory, proposedCommands := 1 }

/-- A service that has recorded a tape knows it again. -/
theorem restart_recovers_oneTape :
    (∃ again, restart namedPlatform oneTapeService = .ok again ∧
      again.state ≈ oneTapeService.state) ↔ namedCodecs.Few oneTapeService.state := by
  have applied : applyAndPersist namedPlatform {} 0 0
      { state := {}, snapshotFile := some none, raftBackend := some .new }
      (.updateTape { id := "TAPE-1" }) = (.ok (), oneTapeService) := rfl
  refine restart_recovers_iff namedPlatform none [.updateTape { id := "TAPE-1" }] _ oneTapeService
    rfl (.acknowledged (.start _) (.refl _) trivial applied) ?_ ?_ ?_
  · simp only [MessageCodecs.All, Codec.RoundTrips]
    decide
  · simp only [MessageCodecs.All, Codec.Fits]
    decide
  · simp only [MessageCodecs.All, Codec.Short]
    decide

/-! One tape more than the reader accepts is recorded and saved, and then cannot be read. -/

/-- The name of a tape by its number, least significant digit first. -/
def tapeLabel (number : Nat) : String :=
  String.ofList ((Nat.digits 10 number).map fun digit => Char.ofNat (48 + digit))

/-- The number can be read off the name. -/
theorem tapeLabel_injective {left right : Nat} (same : tapeLabel left = tapeLabel right) :
    left = right := by
  have digits : ∀ number, (tapeLabel number).toList.map (fun c => c.toNat - 48)
      = Nat.digits 10 number := by
    intro number
    rw [tapeLabel, String.toList_ofList, List.map_map]
    conv => rhs; rw [← List.map_id (Nat.digits 10 number)]
    apply List.map_congr_left
    intro digit mem
    have small := Nat.digits_lt_base (by decide) mem
    interval_cases digit <;> rfl
  have equal := congrArg (Nat.ofDigits 10) ((digits left).symm.trans (same ▸ digits right))
  rwa [Nat.ofDigits_digits, Nat.ofDigits_digits] at equal

/-- The commands that record the first tapes. -/
def recordTapes (count : Nat) : List MetadataCommand :=
  (List.range count).map fun number => .updateTape { id := tapeLabel number }

/-- The state after the first tapes have been recorded. -/
def tapesRecorded : Nat → MetadataState
  | 0 => {}
  | count + 1 => { tapes :=
      (tapesRecorded count).tapes.insert (tapeLabel count) { id := tapeLabel count } }

theorem tapesRecorded_get {count number : Nat} (later : count ≤ number) :
    (tapesRecorded count).tapes.get (tapeLabel number) = none := by
  induction count with
  | zero => rfl
  | succ count ih =>
    have ne : tapeLabel number ≠ tapeLabel count := fun same => by
      have := tapeLabel_injective same
      omega
    rw [tapesRecorded, HashMap.get_insert_ne _ _ ne]
    exact ih (by omega)

theorem tapesRecorded_length (count : Nat) : (tapesRecorded count).tapes.values.length = count := by
  induction count with
  | zero => rfl
  | succ count ih =>
    have grown := HashMap.len_insert_of_absent (tapesRecorded count).tapes
      ({ id := tapeLabel count } : TapeInfo) (tapesRecorded_get (Nat.le_refl count))
    simp only [HashMap.values, HashMap.len, List.length_map] at grown ih ⊢
    rw [tapesRecorded, grown, ih]

/-- Recording tapes one by one is acknowledged every time, and the last state is saved. -/
theorem runs_recordTapes (count : Nat) :
    ∃ last, Runs namedPlatform (fun _ _ => True)
        { state := {}, snapshotFile := some none, raftBackend := some .new }
        (recordTapes count) last ∧
      last.state = tapesRecorded count ∧ (∃ backend, last.raftBackend = some backend ∧
        backend.inner = .memory) ∧ ∃ file, last.snapshotFile = some file ∧
        (0 < count → file = some (encodeSnapshot namedCodecs (tapesRecorded count))) := by
  induction count with
  | zero => exact ⟨_, .start _, rfl, ⟨_, rfl, rfl⟩, none, rfl, by simp⟩
  | succ count ih =>
    obtain ⟨before, ran, s, ⟨backend, raft, memory⟩, file, path, _⟩ := ih
    have outcome := applyAndPersist_memory namedPlatform 0 0 path raft memory
      (.updateTape { id := tapeLabel count })
    -- The label is new, so the map grows by one entry and nothing else changes.
    have recorded : MetadataState.mk before.state.objects before.state.buckets
        before.state.archiveBundles before.state.archiveTasks before.state.recallTasks
        (before.state.tapes.insert (tapeLabel count) { id := tapeLabel count })
        before.state.schedulerWorkers before.state.cacheWorkers before.state.tapeWorkers
          = tapesRecorded (count + 1) := by
      rw [s]
      cases count <;> rfl
    simp only [applyCommand, updateTape, recorded] at outcome
    have snoc : recordTapes (count + 1)
        = recordTapes count ++ [.updateTape { id := tapeLabel count }] := by
      simp [recordTapes, List.range_succ]
    rw [snoc]
    exact ⟨_, .acknowledged ran (.refl _) trivial outcome, rfl, ⟨_, rfl, memory⟩, _, rfl,
      fun _ => rfl⟩

/-- The five sections before the tapes are empty, and the tapes are too many. -/
theorem tapesRecorded_unreadable {codecs : MessageCodecs} {count : Nat}
    (many : maxSnapshotMessagesPerSection < count) (fits : count < 2 ^ 64) (read : MetadataState) :
    decodeSnapshot codecs (encodeSnapshot codecs (tapesRecorded count)) ≠ .ok read := by
  intro decoded
  obtain ⟨count, rfl⟩ : ∃ before, count = before + 1 := ⟨count - 1, by omega⟩
  have length := tapesRecorded_length (count + 1)
  simp only [tapesRecorded] at decoded length
  simp only [decodeSnapshot, encodeSnapshot, Rust.bind_eq_ok, Prod.exists] at decoded
  obtain ⟨_, _, _, _, read1, _, _, read2, _, _, read3, _, _, read4, _, _, read5, _, _, read6, _⟩ :=
    decoded
  -- The five sections in front are empty, and the sixth is over the limit.
  rw [List.drop_left] at read1
  cases (readMessages_empty _ _).symm.trans read1
  cases (readMessages_empty _ _).symm.trans read2
  cases (readMessages_empty _ _).symm.trans read3
  cases (readMessages_empty _ _).symm.trans read4
  cases (readMessages_empty _ _).symm.trans read5
  have few := readMessages_few (by rw [length]; exact fits) read6
  omega

/-- The names of the recorded tapes are far below the limit on a message. -/
theorem tapesRecorded_short {count : Nat} (bounded : count ≤ 10 ^ 7) :
    namedCodecs.All Codec.Short (tapesRecorded count) := by
  have short : ∀ number < 10 ^ 7, (namedCodecs.tapeInfo.encodeToVec
      { id := tapeLabel number }).length ≤ maxSnapshotMessageBytes := by
    intro number small
    have digits := (Nat.digits_length_le_iff (by decide) number).mpr small
    simp only [namedCodecs, namedCodec]
    split
    · simp
    · simp only [tapeLabel, String.toList_ofList, List.length_cons, List.length_map,
        maxSnapshotMessageBytes] at digits ⊢
      omega
  -- Every recorded tape carries one of the labels.
  have stored : ∀ number, number ≤ 10 ^ 7 → ∀ tape ∈ (tapesRecorded number).tapes.values,
      (namedCodecs.tapeInfo.encodeToVec tape).length ≤ maxSnapshotMessageBytes := by
    intro number
    induction number with
    | zero => intro _ tape mem; simp [tapesRecorded, HashMap.values, HashMap.empty] at mem
    | succ number ih =>
      intro room tape mem
      rw [HashMap.mem_values] at mem
      obtain ⟨key, found⟩ := mem
      rw [tapesRecorded, HashMap.get_insert] at found
      split at found
      · cases found
        exact short number (by omega)
      · exact ih (by omega) tape ((HashMap.mem_values _ _).mpr ⟨key, found⟩)
  have others : tapesRecorded count = { tapes := (tapesRecorded count).tapes } := by
    cases count <;> rfl
  rw [others]
  refine ⟨?_, ?_, ?_, ?_, ?_, stored count bounded, ?_, ?_, ?_⟩ <;>
    simp [Codec.Short, HashMap.values, HashMap.empty]

/-- A million and one tapes are recorded and acknowledged, and the next start fails. -/
theorem restart_fails_past_limit :
    ∃ first last, newWithSnapshot namedPlatform none = .ok first ∧
      Runs namedPlatform (fun _ _ => True) first (recordTapes 1000001) last ∧
      namedPlatform.codecs.All Codec.Short last.state ∧
      ∀ again, restart namedPlatform last ≠ .ok again := by
  obtain ⟨last, ran, s, _, file, path, saved⟩ := runs_recordTapes 1000001
  refine ⟨_, last, rfl, ran, ?_, ?_⟩
  · rw [s]
    exact tapesRecorded_short (by decide)
  -- One tape more than the limit, saved by a command that was acknowledged.
  · intro again restarted
    simp only [restart, path, saved (by decide), Option.getD_some, newWithSnapshot,
      Rust.bind_eq_ok] at restarted
    obtain ⟨read, decoded, _⟩ := restarted
    exact tapesRecorded_unreadable (by decide) (by decide) read decoded

end ColdStore
