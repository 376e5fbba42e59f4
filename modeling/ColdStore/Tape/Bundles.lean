import ColdStore.Tape.SimulatorLaws

/-! A tape written only at its end holds one data record and one filemark for each bundle. -/

namespace ColdStore

open Rust

/-- The records of a tape that holds the given bundles and nothing else. -/
def bundleRecords (bundles : List Bytes) : List TapeRecord :=
  bundles.flatMap fun bytes => [.data bytes, .filemark]

@[simp] theorem bundleRecords_nil : bundleRecords [] = [] := rfl

@[simp] theorem bundleRecords_cons (bytes : Bytes) (rest : List Bytes) :
    bundleRecords (bytes :: rest) = .data bytes :: .filemark :: bundleRecords rest := rfl

theorem bundleRecords_append (first second : List Bytes) :
    bundleRecords (first ++ second) = bundleRecords first ++ bundleRecords second := by
  simp [bundleRecords]

theorem bundleRecords_length (bundles : List Bytes) :
    (bundleRecords bundles).length = 2 * bundles.length := by
  induction bundles with
  | nil => rfl
  | cons bytes rest ih =>
    simp only [bundleRecords_cons, List.length_cons, ih]
    omega

/-- Dropping the records of all bundles leaves what is behind them. -/
theorem bundleRecords_drop (bundles : List Bytes) (rest : List TapeRecord) :
    (bundleRecords bundles ++ rest).drop (2 * bundles.length) = rest := by
  rw [← bundleRecords_length]
  exact List.drop_left

namespace VirtualTape

/-- Passing a filemark for each bundle stops behind the bundles. -/
theorem seekFrom_bundles (bundles : List Bytes) (rest : List TapeRecord) (index offset : Nat)
    (aligned : offset = 0) :
    seekFrom bundles.length (bundleRecords bundles ++ rest)
        { recordIndex := index, byteOffset := offset }
      = (0, { recordIndex := index + 2 * bundles.length, byteOffset := 0 }) := by
  -- One bundle is passed by passing its data record and its filemark.
  induction bundles generalizing index offset with
  | nil => simp [seekFrom, aligned]
  | cons bytes tail ih =>
    have later := ih (index + 1 + 1) 0 rfl
    simp only [List.length_cons, bundleRecords_cons, List.cons_append, seekFrom, later,
      Prod.mk.injEq, TapeCursor.mk.injEq, true_and, and_true]
    omega

/-- Behind as many filemarks as there are bundles, the head is behind the bundles. -/
theorem positioned_bundles {tape : VirtualTape} {bundles : List Bytes} {rest : List TapeRecord}
    (holds : tape.records = bundleRecords bundles ++ rest) :
    tape.positioned bundles.length =
      (true, { tape with cursor := { recordIndex := 2 * bundles.length, byteOffset := 0 } }) := by
  have sought := seekFrom_bundles bundles rest 0 0 rfl
  rw [Nat.zero_add] at sought
  simp only [positioned, seekFilemark, rewind, holds, List.drop_zero, sought]
  rfl

/-- Reading from a data record in front of a filemark gives the data up to the wanted length. -/
theorem readFrom_bundle {maxLen : Nat} (bounded : maxLen ≤ usizeMax) (bytes : Bytes)
    (rest : List TapeRecord) (index : Nat) (enough : bytes.length ≤ maxLen) :
    ∃ cursor, readFrom maxLen (.data bytes :: .filemark :: rest)
      { recordIndex := index, byteOffset := 0 } [] = some (bytes, cursor) := by
  by_cases wanted : 0 < maxLen
  · have room : ¬ usizeMax < maxLen := by omega
    have all : min maxLen bytes.length = bytes.length := by omega
    simp only [readFrom, List.length_nil, wanted, if_true, Nat.zero_min, Nat.zero_add,
      Nat.sub_zero, room, if_false, all, List.take_length, List.drop_zero, List.nil_append]
    -- The whole record was read, and the filemark ends the read if the length did not.
    split <;> exact ⟨_, rfl⟩
  · have empty : bytes = [] := List.length_eq_zero_iff.mp (by omega)
    subst empty
    exact ⟨{ recordIndex := index }, by simp [readFrom, wanted]⟩

/-- Writing at the end of the bundles adds one. -/
theorem append_bundle {tape : VirtualTape} {bundles : List Bytes}
    (holds : tape.records = bundleRecords bundles)
    (atEnd : tape.cursor.recordIndex = tape.records.length) (bytes : Bytes) :
    ((tape.appendData bytes).appendFilemark).records = bundleRecords (bundles ++ [bytes]) := by
  simp only [appendData, appendFilemark, append, atEnd, List.take_length, bundleRecords_append,
    holds]
  simp [bundleRecords]

end VirtualTape

namespace SimulatorState

/-- What is behind a number of bundles is read back by that number, whatever follows it. -/
theorem readBundle_behind {s : SimulatorState} {driveId : String} {address : ElementAddress}
    {tape : VirtualTape} (holds : s.HoldsTape driveId address tape) {bundles : List Bytes}
    {bytes : Bytes} {rest : List TapeRecord}
    (records : tape.records = bundleRecords bundles ++ .data bytes :: .filemark :: rest)
    (small : bytes.length ≤ usizeMax) {length : Nat} (wanted : length = bytes.length ∨ length = 0) :
    ∃ next, next.records = tape.records ∧ next.barcode = tape.barcode ∧
      s.readBundle driveId bundles.length length = (.ok bytes, s.withTape address next) := by
  have place := VirtualTape.positioned_bundles records
  obtain ⟨read, next, reads, same, name, answered⟩ :=
    readBundle_found holds (by rw [place]) length
  have enough : bytes.length ≤ readLength length := by
    simp only [readLength]
    split <;> omega
  -- The records from the head on open with the bundle and its filemark.
  obtain ⟨cursor, got⟩ := VirtualTape.readFrom_bundle (readLength_le length) bytes rest
    (2 * bundles.length) enough
  simp only [place, VirtualTape.read, records, bundleRecords_drop, got, Option.map_some,
    Option.some.injEq, Prod.mk.injEq] at reads
  rw [← reads.1] at answered
  exact ⟨next, same, name, answered⟩

/-- A bundle is read back by its number, with its own length or without a limit. -/
theorem readBundle_bundle {s : SimulatorState} {driveId : String} {address : ElementAddress}
    {tape : VirtualTape} (holds : s.HoldsTape driveId address tape) {bundles : List Bytes}
    (records : tape.records = bundleRecords bundles) {number : Nat} {bytes : Bytes}
    (stored : bundles[number]? = some bytes) (small : bytes.length ≤ usizeMax) {length : Nat}
    (wanted : length = bytes.length ∨ length = 0) :
    ∃ next, next.records = tape.records ∧ next.barcode = tape.barcode ∧
      s.readBundle driveId number length = (.ok bytes, s.withTape address next) := by
  obtain ⟨inside, here⟩ := List.getElem?_eq_some_iff.mp stored
  have split : bundles = bundles.take number ++ bytes :: bundles.drop (number + 1) := by
    rw [← here, ← List.drop_eq_getElem_cons inside, List.take_append_drop]
  rw [split, bundleRecords_append, bundleRecords_cons] at records
  have before : (bundles.take number).length = number := by
    rw [List.length_take]
    omega
  have read := readBundle_behind holds records small wanted
  rwa [before] at read

end SimulatorState

end ColdStore
