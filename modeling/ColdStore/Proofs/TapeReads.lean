import ColdStore.Rust.Slice
import ColdStore.Proofs.TapePositions
import Mathlib.Algebra.Order.BigOperators.Group.List

/-! How much can be asked of a read: where the head of a tape is, and when the reader fails. -/

namespace ColdStore.VirtualTape

open Rust Relation

/--
Read on over the records as a build without overflow checks does.

The end of the wanted part wraps around, and a part that does not lie in its record is refused.
-/
def readFromWrapping (maxLen : Nat) :
    List TapeRecord → TapeCursor → Bytes → Option (Bytes × TapeCursor)
  | [], cursor, out => some (out, cursor)
  | record :: rest, cursor, out =>
    if out.length < maxLen then
      match record with
      | .filemark => some (out, { recordIndex := cursor.recordIndex + 1, byteOffset := 0 })
      | .data bytes =>
        let start := min cursor.byteOffset bytes.length
        let remaining := maxLen - out.length
        let stop := min ((start + remaining) % 2 ^ 64) bytes.length
        match slice bytes start stop with
        | none => none
        | some part =>
          if stop = bytes.length then
            readFromWrapping maxLen rest { recordIndex := cursor.recordIndex + 1, byteOffset := 0 }
              (out ++ part)
          else some (out ++ part, { cursor with byteOffset := stop })
    else some (out, cursor)

/-- A read in a build without overflow checks. -/
def readWrapping (maxLen : Nat) (tape : VirtualTape) : Option (Bytes × VirtualTape) :=
  (readFromWrapping maxLen (tape.records.drop tape.cursor.recordIndex) tape.cursor []).map
    fun (out, cursor) => (out, { tape with cursor })

section

variable {maxLen : Nat} (largest : maxLen ≤ usizeMax)
include largest

/-- A sum that wraps around ends in front of the part it was to bound. -/
theorem slice_wrapped {bytes : Bytes} {start remaining : Nat} (bounded : remaining ≤ maxLen)
    (wraps : usizeMax < start + remaining) (small : start ≤ usizeMax) :
    slice bytes start (min ((start + remaining) % 2 ^ 64) bytes.length) = none := by
  rw [slice, ite_eq_right_iff]
  rw [usizeMax] at largest wraps small
  -- The sum is less than twice the largest number, and so short of the start by what is left.
  have wrapped : (start + remaining) % 2 ^ 64 = start + remaining - 2 ^ 64 := by omega
  rw [wrapped]
  omega

/-- Both builds read the same and fail in the same places. -/
theorem readFromWrapping_eq {rest : List TapeRecord}
    (small : ∀ bytes, .data bytes ∈ rest → bytes.length ≤ usizeMax) (cursor : TapeCursor)
    (out : Bytes) : readFromWrapping maxLen rest cursor out = readFrom maxLen rest cursor out := by
  -- By induction on the records ahead; they differ at most in the end of the wanted part.
  induction rest generalizing cursor out with
  | nil => rfl
  | cons record rest ih =>
    by_cases more : out.length < maxLen
    · cases record with
      | filemark => simp only [readFromWrapping, readFrom]
      | data bytes =>
        have fits : bytes.length ≤ usizeMax := small bytes (by simp)
        simp only [readFromWrapping, readFrom, if_pos more]
        by_cases wraps : usizeMax < min cursor.byteOffset bytes.length + (maxLen - out.length)
        · rw [if_pos wraps, slice_wrapped largest (by omega) wraps (by omega)]
        · rw [if_neg wraps]
          -- A sum that does not overflow is not changed by wrapping.
          have plain : (min cursor.byteOffset bytes.length + (maxLen - out.length)) % 2 ^ 64 =
              min cursor.byteOffset bytes.length + (maxLen - out.length) := by
            apply Nat.mod_eq_of_lt
            rw [usizeMax] at wraps
            omega
          rw [plain, slice_of_le (by omega) (by omega)]
          simp only [ih fun other mem => small other (List.mem_cons_of_mem _ mem)]
    · simp only [readFromWrapping, readFrom, if_neg more]

/-- From the beginning of a record, whatever is wanted ends within the largest number. -/
theorem readFrom_of_offset_zero {cursor : TapeCursor} (start : cursor.byteOffset = 0)
    (rest : List TapeRecord) (out : Bytes) : readFrom maxLen rest cursor out ≠ none := by
  -- Every later record is read from its beginning as well.
  induction rest generalizing cursor out with
  | nil => simp [readFrom]
  | cons record rest ih =>
    by_cases more : out.length < maxLen
    · cases record with
      | filemark => simp [readFrom, more]
      | data bytes =>
        have room : ¬ usizeMax < maxLen - out.length := by omega
        simp only [readFrom, if_pos more, start, Nat.zero_min, Nat.zero_add, if_neg room]
        split
        · exact ih rfl _
        · simp
    · simp [readFrom, more]

/-- A read fails if it asks for more than can be counted from where the head is in its record. -/
theorem Placed.read_eq_none_iff {tape : VirtualTape} (placed : Placed tape.records tape.cursor) :
    tape.read maxLen = none ↔ 0 < maxLen ∧ usizeMax < tape.cursor.byteOffset + maxLen := by
  rw [VirtualTape.read, Option.map_eq_none_iff]
  rcases placed.within with start | ⟨bytes, found, less⟩
  · exact iff_of_false (readFrom_of_offset_zero largest start _ _) (by omega)
  · obtain ⟨inside, there⟩ := List.getElem?_eq_some_iff.mp found
    have here := List.drop_eq_getElem_cons inside
    rw [there] at here
    have offset : min tape.cursor.byteOffset bytes.length = tape.cursor.byteOffset := by omega
    rw [here]
    simp only [readFrom, List.length_nil, Nat.sub_zero, offset]
    -- Only the record under the head is not read from its beginning.
    by_cases wants : 0 < maxLen
    · by_cases wraps : usizeMax < tape.cursor.byteOffset + maxLen
      · simp [wants, wraps]
      · rw [if_pos wants, if_neg wraps]
        refine iff_of_false ?_ (by omega)
        split
        · exact readFrom_of_offset_zero largest rfl _ _
        · simp
    · rw [if_neg wants]
      exact iff_of_false (by simp) (by omega)

end

/-- The head is not behind the end of the data. -/
theorem Placed.currentPosition_le {tape : VirtualTape} (placed : Placed tape.records tape.cursor) :
    tape.currentPosition ≤ tape.usedBytes := by
  -- What is before the record under the head, and from this record on, is all there is.
  have split : tape.usedBytes = ((tape.records.take tape.cursor.recordIndex).map TapeRecord.size).sum +
      ((tape.records.drop tape.cursor.recordIndex).map TapeRecord.size).sum := by
    rw [usedBytes, ← List.sum_append, ← List.map_append, List.take_append_drop]
  rw [split, currentPosition]
  rcases placed.within with start | ⟨bytes, found, less⟩
  · omega
  · obtain ⟨inside, there⟩ := List.getElem?_eq_some_iff.mp found
    rw [List.drop_eq_getElem_cons inside, there, List.map_cons, List.sum_cons, TapeRecord.size]
    omega

/--
The head of a tape is at the beginning of a record, inside a data record or at the end of the tape,
and never behind the data.

A read fails if it asks for so much from inside a record that the end of it cannot be counted, and
without overflow checks it fails in the same case.
-/
theorem head_placed_and_read_eq_none_iff {barcode : String} {tape : VirtualTape}
    (reached : ReflTransGen Handled { barcode } tape) :
    Placed tape.records tape.cursor ∧ tape.currentPosition ≤ tape.usedBytes ∧
    ∀ maxLen ≤ usizeMax,
      (tape.read maxLen = none ↔ 0 < maxLen ∧ usizeMax < tape.cursor.byteOffset + maxLen) ∧
      (tape.usedBytes ≤ usizeMax → tape.readWrapping maxLen = tape.read maxLen) := by
  have placed := placed_of_handled reached
  refine ⟨placed, placed.currentPosition_le, fun maxLen largest =>
    ⟨placed.read_eq_none_iff largest, fun small => ?_⟩⟩
  have records : ∀ bytes, .data bytes ∈ tape.records.drop tape.cursor.recordIndex →
      bytes.length ≤ usizeMax := by
    intro bytes mem
    have listed : bytes.length ∈ tape.records.map TapeRecord.size :=
      List.mem_map.mpr ⟨.data bytes, List.mem_of_mem_drop mem, rfl⟩
    have bound : bytes.length ≤ tape.usedBytes := List.single_le_sum (by simp) _ listed
    omega
  rw [readWrapping, readFromWrapping_eq largest records, VirtualTape.read]

/-- From behind the first of three octets, the two that are left can be read by asking for many. -/
theorem head_placed_and_read_eq_none_iff_insideRecord :
    insideRecord.read (usizeMax - 1) ≠ none := by
  obtain ⟨_, _, reads⟩ := head_placed_and_read_eq_none_iff insideRecord_reached
  intro failed
  have wraps := ((reads (usizeMax - 1) (by decide)).1.mp failed).2
  exact absurd wraps (by decide)

/-- Asking for as much as there can be fails there, with overflow checks and without. -/
theorem read_largest_fails :
    ReflTransGen Handled { barcode := "T00001L9" } insideRecord ∧
      insideRecord.read usizeMax = none ∧ insideRecord.readWrapping usizeMax = none :=
  ⟨insideRecord_reached, by decide, by decide⟩

end ColdStore.VirtualTape
