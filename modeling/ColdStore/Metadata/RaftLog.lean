import ColdStore.Metadata.Raft

/-! The log entries in the store, and the numbers they are stored under. -/

namespace ColdStore

open Rust

/-- Places are told apart by their numbers, as long as these fit 64 bits. -/
theorem logKey_inj {first second : Nat} (fits : first < 2 ^ 64) (alsoFits : second < 2 ^ 64)
    (same : logKey first = logKey second) : first = second := by
  have bytes := List.reverse_inj.mp (List.append_cancel_left same)
  rw [← fromLeBytes_toLeBytes 8 first fits, bytes, fromLeBytes_toLeBytes 8 second alsoFits]

theorem logKey_isLog (index : Nat) : logKeyPrefix.isPrefixOf (logKey index) = true := by
  simp [logKey]

theorem snapshotKey_not_isLog : logKeyPrefix.isPrefixOf snapshotKey = false := rfl

/-- The snapshot is not stored among the log entries. -/
theorem logKey_ne_snapshotKey (index : Nat) : logKey index ≠ snapshotKey := by
  intro same
  have log := logKey_isLog index
  rw [same, snapshotKey_not_isLog] at log
  cases log

/-- What is stored for a command that was proposed. -/
def logRecord (platform : Platform) (cmd : MetadataCommand) : Bytes :=
  toLeBytes 8 1 ++ platform.debugCommand cmd

variable [KeyValueStore]

namespace RocksDb

/-- The log has no gaps: its entries are stored under the numbers from one to their count. -/
def Numbered (db : RocksDb) : Prop :=
  ∀ index < 2 ^ 64, (db.get (logKey index)).isSome ↔ 1 ≤ index ∧ index ≤ db.logEntryCount

/-- Two stores hold the same log. -/
structure SameLog (before after : RocksDb) : Prop where
  count : after.logEntryCount = before.logEntryCount
  stored : ∀ index, after.get (logKey index) = before.get (logKey index)

variable {db : RocksDb}

/-- A store without log entries has no gap in its log. -/
theorem numbered_of_absent (none : ∀ key, logKeyPrefix.isPrefixOf key = true → db.get key = none) :
    db.Numbered := by
  intro index _
  -- Nothing is counted either, since only stored keys are.
  have count : db.logEntryCount = 0 := KeyValueStore.countFrom_absent db logKeyPrefix none
  rw [none _ (logKey_isLog index), count]
  constructor
  · intro found
    cases found
  · intro between
    omega

/-- An entry is counted unless it replaces another. -/
theorem put_logEntryCount (key value : Bytes) : logEntryCount (db.put key value) =
    logEntryCount db + if logKeyPrefix.isPrefixOf key && (db.get key).isNone then 1 else 0 :=
  KeyValueStore.countFrom_put db key value logKeyPrefix

/-- A snapshot leaves the log alone. -/
theorem sameLog_saveStateMachineSnapshot (platform : Platform) (s : MetadataState) :
    SameLog db (db.saveStateMachineSnapshot platform s) where
  count := by
    rw [saveStateMachineSnapshot, put_logEntryCount, snapshotKey_not_isLog]
    rfl
  stored index := by rw [saveStateMachineSnapshot, get_put, if_neg (logKey_ne_snapshotKey index)]

theorem SameLog.numbered {after : RocksDb} (same : SameLog db after) (numbered : db.Numbered) :
    after.Numbered := by
  intro index fits
  rw [same.stored, same.count]
  exact numbered index fits

variable {index : Nat}

variable (numbered : db.Numbered)

include numbered

/-- The number of entries after one was stored behind the last, or in the place of another. -/
theorem Numbered.logEntryCount_put (fits : index < 2 ^ 64) (positive : 1 ≤ index)
    (reached : index ≤ db.logEntryCount + 1) (value : Bytes) :
    logEntryCount (db.put (logKey index) value) = max db.logEntryCount index := by
  rw [put_logEntryCount, logKey_isLog, Bool.true_and]
  by_cases within : index ≤ db.logEntryCount
  · have stored := (numbered index fits).mpr ⟨positive, within⟩
    rw [← Option.not_isSome, stored, Nat.max_eq_left within]
    rfl
  · have free : (db.get (logKey index)).isSome = false := by
      rw [← Bool.not_eq_true, numbered index fits]
      omega
    rw [← Option.not_isSome, free, Bool.not_false, if_pos rfl]
    omega

/-- Both ways the log has no gaps afterwards. -/
theorem Numbered.put (fits : index < 2 ^ 64) (positive : 1 ≤ index)
    (reached : index ≤ db.logEntryCount + 1) (value : Bytes) :
    Numbered (db.put (logKey index) value) := by
  intro other otherFits
  rw [numbered.logEntryCount_put fits positive reached, get_put]
  have old := numbered other otherFits
  split
  · rename_i same
    obtain rfl := logKey_inj otherFits fits same
    simp only [Option.isSome_some, true_iff]
    exact ⟨positive, Nat.le_max_right _ _⟩
  · rename_i ne
    -- The place that may be new is the one that was just taken.
    have apart : other ≠ index := fun same => ne (congrArg logKey same)
    rw [old]
    omega

end RocksDb

end ColdStore
