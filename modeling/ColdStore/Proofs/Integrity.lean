import ColdStore.Scheduler.System

/-! Archiving reads a recorded checksum generously, and recalling reads it to the letter. -/

namespace ColdStore.Scheduler

open Rust

section

variable [Sha256]

/-- A digest behind the mark of its algorithm is taken for the digest. -/
theorem checksumMatches_marked (data : Bytes) :
    checksumMatches (trim ("sha256:" ++ sha256Hex data)) (sha256Hex data) = true := by
  -- Neither the mark nor the digest has white space.
  have plain : ∀ c ∈ ("sha256:" ++ sha256Hex data).toList, isWhitespace c = false := by
    intro c mem
    rw [String.toList_append, List.mem_append] at mem
    cases mem with
    | inl marked =>
      have mark : "sha256:".toList.any isWhitespace = false := by decide
      exact Bool.eq_false_iff.mpr (List.any_eq_false.mp mark c marked)
    | inr digit => exact (lowerHex_plain digit).1
  simp [checksumMatches, trim_of_plain plain, stripPrefix_append, eqIgnoreAsciiCase]

/-- Recalling compares the length and the digest, the latter as text. -/
theorem validateRecalled_eq_ok (task : RecallTask) (data : Bytes) :
    validateRecalled task data = .ok () ↔
      data.length = task.objectSize ∧ sha256Hex data = task.checksum := by
  simp [validateRecalled, bind_eq_ok]

/--
What archiving accepts passes the checks of a recall exactly if its recorded checksum is written
the way the hash function prints one.

Archiving also accepts a blank checksum, surrounding white space, the mark of the algorithm and
upper-case digits. A recall takes each of these for a loss of data.
-/
theorem accepted_passes_recall_iff (obj : ObjectMetadata) (staged : Phase1StagedObject)
    (accepted : validateStagedObjectMatchesMetadata obj staged = .ok ()) (bucket key : String)
    (place : ArchivePlace) (days : Nat) (tier : RestoreTier) (expireAt now : Timestamp) :
    validateRecalled (restoreTask bucket key obj place days tier expireAt now) staged.data
        = .ok () ↔ WrittenPlainly obj.checksum := by
  obtain ⟨_, _, size, _, checksum⟩ := (validateStagedObject_eq_ok obj staged).mp accepted
  have compared := validateRecalled_eq_ok
    (restoreTask bucket key obj place days tier expireAt now) staged.data
  rw [compared]
  constructor
  · intro passed
    -- The recorded text is a digest, which is plainly written.
    have same : sha256Hex staged.data = obj.checksum := passed.2
    exact same ▸ sha256Hex_writtenPlainly staged.data
  · intro plainly
    rw [plainly.trimmed] at checksum
    -- The checksum is there, so archiving has compared it.
    have matched := checksum.resolve_left plainly.present
    have same := (plainly.checksumMatches_iff staged.data).mp matched
    exact ⟨size.symm, same.symm⟩

end

/-- A staged body of one byte. -/
def oneByteStaged : Phase1StagedObject where
  description := ⟨"docs", "a", none, 1, none, none, none, none⟩
  data := [97]

/-- The record of the one byte, with a checksum. -/
def oneByteRecord (checksum : String) : ObjectMetadata :=
  { bucket := "docs", key := "a", size := 1, checksum }

/-- With the digest as the checksum, the byte is archived and recalled. -/
theorem accepted_passes_recall_oneByte :
    letI := shortDigests
    validateRecalled (restoreTask "docs" "a" (oneByteRecord (sha256Hex [97])) ⟨"", "TAPE-1", 0⟩ 1
      .standard {} {}) [97] = .ok () := by
  let := shortDigests
  have accepted : validateStagedObjectMatchesMetadata (oneByteRecord (sha256Hex [97]))
      oneByteStaged = .ok () := by
    have plainly := sha256Hex_writtenPlainly [97]
    have matched := (plainly.checksumMatches_iff [97]).mpr rfl
    rw [validateStagedObject_eq_ok]
    exact ⟨by decide, rfl, rfl, rfl, .inr (plainly.trimmed.symm ▸ matched)⟩
  have passes := accepted_passes_recall_iff _ oneByteStaged accepted "docs" "a" ⟨"", "TAPE-1", 0⟩ 1
    .standard {} {}
  exact passes.mpr (sha256Hex_writtenPlainly [97])

/-- With the mark of the algorithm in front of the digest, the byte is archived and then refused. -/
theorem marked_checksum_fails_recall :
    letI := shortDigests
    let obj := oneByteRecord ("sha256:" ++ sha256Hex [97])
    validateStagedObjectMatchesMetadata obj oneByteStaged = .ok () ∧
      validateRecalled (restoreTask "docs" "a" obj ⟨"", "TAPE-1", 0⟩ 1 .standard {} {})
        oneByteStaged.data = .error (.dataLoss "recall task phase1-recall:docs/a checksum mismatch") := by
  let := shortDigests
  constructor
  · rw [validateStagedObject_eq_ok]
    exact ⟨by decide, rfl, rfl, rfl, .inr (checksumMatches_marked [97])⟩
  · decide +kernel

end ColdStore.Scheduler
