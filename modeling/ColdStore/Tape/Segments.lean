import ColdStore.Tape.Counting

/-! What lies on a tape between its filemarks, and how seeks and reads move the head through it. -/

namespace ColdStore

open Rust

namespace VirtualTape

/-- The data up to the next filemark, or to the end of the tape. -/
def lead : List TapeRecord → Bytes
  | [] | .filemark :: _ => []
  | .data bytes :: rest => bytes ++ lead rest

/-- The data in front of each filemark, and behind the last one. -/
def segments : List TapeRecord → List Bytes
  | [] => [[]]
  | .filemark :: rest => [] :: segments rest
  | .data bytes :: rest => (segments rest).modifyHead (bytes ++ ·)

variable (records : List TapeRecord)

/-- The first segment reaches to the next filemark. -/
theorem head?_segments : (segments records).head? = some (lead records) := by
  induction records with
  | nil => rfl
  | cons record rest ih =>
    cases record with
    | filemark => rfl
    | data bytes => rw [segments, List.head?_modifyHead, ih, lead, Option.map_some]

/-- Every filemark ends a segment. -/
theorem length_segments :
    (segments records).length = (records.filter fun record => record == .filemark).length + 1 := by
  induction records with
  | nil => rfl
  | cons record rest ih =>
    cases record with
    | filemark => simp [segments, ih]
    | data bytes => simp [segments, ih]

theorem length_lead_le : (lead records).length ≤ (records.map TapeRecord.size).sum := by
  induction records with
  | nil => exact Nat.le_refl 0
  | cons record rest ih =>
    cases record with
    | filemark => exact Nat.zero_le _
    | data bytes =>
      simp only [lead, List.length_append, List.map_cons, List.sum_cons, TapeRecord.size]
      omega

/-! Seeking. -/

/-- A seek succeeds if there is a segment behind the filemarks that it is to pass. -/
theorem seekFrom_fst (count : Nat) (records : List TapeRecord) (cursor : TapeCursor) :
    (seekFrom count records cursor).1 = 0 ↔ count < (segments records).length := by
  -- Data records are passed on the way and change the length of a segment only.
  induction records generalizing count cursor with
  | nil => cases count <;> simp [seekFrom, segments]
  | cons record rest ih =>
    cases count with
    | zero =>
      have positive : 0 < (segments (record :: rest)).length := by
        rw [length_segments]
        omega
      exact iff_of_true rfl positive
    | succ count => cases record <;> simp [seekFrom, segments, ih]

/-- It passes whole records, up to the segment that it counted to. -/
theorem seekFrom_snd (count : Nat) (records : List TapeRecord) (cursor : TapeCursor) :
    ∃ passed ≤ records.length,
      (seekFrom count records cursor).2.recordIndex = cursor.recordIndex + passed ∧
        (count < (segments records).length →
          segments (records.drop passed) = (segments records).drop count) := by
  -- Filemarks are counted off with the segments they end; data passes without counting.
  induction records generalizing count cursor with
  | nil =>
    refine ⟨0, Nat.le_refl 0, ?_, ?_⟩
    · cases count <;> rfl
    · intro inside
      obtain rfl : count = 0 := by simpa [segments] using inside
      rfl
  | cons record rest ih =>
    cases count with
    | zero => exact ⟨0, Nat.zero_le _, rfl, fun _ => rfl⟩
    | succ count =>
      cases record with
      | filemark =>
        obtain ⟨passed, bound, index, found⟩ :=
          ih count ⟨cursor.recordIndex + 1, 0⟩
        refine ⟨passed + 1, Nat.succ_le_succ bound, ?_, ?_⟩
        · rw [seekFrom, index]
          show cursor.recordIndex + 1 + passed = cursor.recordIndex + (passed + 1)
          omega
        · intro inside
          exact found (Nat.lt_of_succ_lt_succ inside)
      | data bytes =>
        obtain ⟨passed, bound, index, found⟩ :=
          ih (count + 1) ⟨cursor.recordIndex + 1, 0⟩
        refine ⟨passed + 1, Nat.succ_le_succ bound, ?_, ?_⟩
        · rw [seekFrom, index]
          show cursor.recordIndex + 1 + passed = cursor.recordIndex + (passed + 1)
          omega
        · intro inside
          rw [segments, List.length_modifyHead] at inside
          rw [segments, List.drop_succ_cons, found inside, List.drop_modifyHead_of_pos (by omega)]

/-- A tape has as many segments in front of its end as filemarks. -/
theorem positioned_iff (tape : VirtualTape) (count : Nat) :
    (tape.positioned count).1 = true ↔ count ≤ tape.filemarks := by
  simp only [positioned, seekFilemark, beq_iff_eq]
  rw [seekFrom_fst, length_segments, filemarks, Nat.lt_succ_iff]
  rfl

/-! Reading. -/

/-- The head is at the beginning of a record, inside a data record or at the end of the tape. -/
structure Placed (records : List TapeRecord) (cursor : TapeCursor) : Prop where
  inside : cursor.recordIndex ≤ records.length
  within : cursor.byteOffset = 0 ∨ ∃ bytes, records[cursor.recordIndex]? = some (.data bytes) ∧
    cursor.byteOffset < bytes.length

/-- The data from the head to the next filemark. -/
def ahead (records : List TapeRecord) (cursor : TapeCursor) : Bytes :=
  (lead (records.drop cursor.recordIndex)).drop cursor.byteOffset

/-- The number of data octets in front of the head. -/
def position (records : List TapeRecord) (cursor : TapeCursor) : Nat :=
  ((records.take cursor.recordIndex).map TapeRecord.size).sum + cursor.byteOffset

section

variable {records rest : List TapeRecord} {record : TapeRecord} {cursor : TapeCursor}

/-- Passing a record moves it from the records ahead to those in front of the head. -/
theorem drop_eq_cons {index : Nat} (here : records.drop index = record :: rest) :
    records[index]? = some record ∧ records.drop (index + 1) = rest ∧
      index < records.length ∧ records.take (index + 1) = records.take index ++ [record] := by
  have first : records[index]? = some record := by
    rw [← List.head?_drop, here, List.head?_cons]
  obtain ⟨inside, there⟩ := List.getElem?_eq_some_iff.mp first
  refine ⟨first, ?_, inside, ?_⟩
  · rw [← List.drop_drop, here, List.drop_succ_cons, List.drop_zero]
  · rw [List.take_succ_eq_append_getElem inside, there]

variable {bytes : Bytes}

/-- A head at a data record does not stand behind its last octet. -/
theorem Placed.offset_le (placed : Placed records cursor)
    (here : records.drop cursor.recordIndex = .data bytes :: rest) :
    cursor.byteOffset ≤ bytes.length := by
  obtain ⟨first, _⟩ := drop_eq_cons here
  rcases placed.within with start | ⟨other, found, less⟩
  · omega
  · obtain rfl : bytes = other := by
      rw [first] at found
      exact TapeRecord.data.inj (Option.some.inj found)
    omega

/-- At a data record, what is ahead is the rest of the record and what comes behind it. -/
theorem Placed.ahead_split (placed : Placed records cursor)
    (here : records.drop cursor.recordIndex = .data bytes :: rest) :
    ahead records cursor = bytes.drop cursor.byteOffset ++ lead rest := by
  rw [ahead, here, lead, List.drop_append_of_le_length (placed.offset_le here)]

theorem ahead_next (here : records.drop cursor.recordIndex = record :: rest) :
    ahead records ⟨cursor.recordIndex + 1, 0⟩ = lead rest := by
  rw [ahead, (drop_eq_cons here).2.1, List.drop_zero]

/-- What is ahead of a head inside a data record lies on the tape. -/
theorem Placed.offset_add_ahead_le (placed : Placed records cursor)
    (here : records.drop cursor.recordIndex = .data bytes :: rest) :
    cursor.byteOffset + (ahead records cursor).length ≤ (records.map TapeRecord.size).sum := by
  have within := placed.offset_le here
  have behind := length_lead_le rest
  -- The record under the head splits the tape into what is before it and what is behind it.
  have split : (records.map TapeRecord.size).sum =
      ((records.take cursor.recordIndex).map TapeRecord.size).sum +
        (bytes.length + (rest.map TapeRecord.size).sum) := by
    have whole := List.take_append_drop cursor.recordIndex records
    rw [here] at whole
    have sizes := congrArg (fun all => (all.map TapeRecord.size).sum) whole
    simpa [TapeRecord.size] using sizes.symm
  rw [placed.ahead_split here, List.length_append, List.length_drop, split]
  omega

/-- Behind a record that it has passed, the head is well placed. -/
theorem placed_next (here : records.drop cursor.recordIndex = record :: rest) :
    Placed records ⟨cursor.recordIndex + 1, 0⟩ :=
  ⟨(drop_eq_cons here).2.2.1, .inl rfl⟩

/-- The head has passed as many octets as the record holds. -/
theorem position_next (here : records.drop cursor.recordIndex = record :: rest) :
    position records ⟨cursor.recordIndex + 1, 0⟩ =
      ((records.take cursor.recordIndex).map TapeRecord.size).sum + record.size := by
  simp [position, (drop_eq_cons here).2.2.2]

/-- The head has moved over some octets, and no filemark was among them. -/
structure Advanced (records : List TapeRecord) (cursor : TapeCursor) (count : Nat)
    (next : TapeCursor) : Prop where
  placed : Placed records next
  ahead : ahead records next = (ahead records cursor).drop count
  position : position records next = position records cursor + count

theorem Advanced.zero (placed : Placed records cursor) : Advanced records cursor 0 cursor :=
  ⟨placed, List.drop_zero.symm, rfl⟩

/-- A head that stops inside a data record. -/
theorem Advanced.inside {count : Nat} (here : records.drop cursor.recordIndex = .data bytes :: rest)
    (less : cursor.byteOffset + count < bytes.length) :
    Advanced records cursor count { cursor with byteOffset := cursor.byteOffset + count } where
  placed := ⟨(drop_eq_cons here).2.2.1.le, .inr ⟨bytes, (drop_eq_cons here).1, less⟩⟩
  ahead := by
    simp only [VirtualTape.ahead, List.drop_drop]
  position := by simp only [VirtualTape.position, Nat.add_assoc]

/-- A head that leaves a data record, with some more to go. -/
theorem Advanced.leaving (placed : Placed records cursor) {more : Nat} {next : TapeCursor}
    (here : records.drop cursor.recordIndex = .data bytes :: rest)
    (later : Advanced records ⟨cursor.recordIndex + 1, 0⟩ more next)
    : Advanced records cursor (bytes.length - cursor.byteOffset + more) next where
  placed := later.placed
  ahead := by
    have left : (bytes.drop cursor.byteOffset).length = bytes.length - cursor.byteOffset :=
      List.length_drop
    rw [later.ahead, ahead_next here, placed.ahead_split here, ← left, List.drop_length_add_append]
  position := by
    have within := placed.offset_le here
    rw [later.position, position_next here, VirtualTape.position, TapeRecord.size]
    omega

/-- A read that has what it wants ends where it is. -/
theorem readFrom_full (rest : List TapeRecord) (cursor : TapeCursor) (out : Bytes) :
    readFrom out.length rest cursor out = some (out, cursor) := by
  cases rest with
  | nil => rfl
  | cons record rest => simp only [readFrom, Nat.lt_irrefl, if_false]

/--
As long as there is enough data in front of the next filemark, a read takes what it wants.

The head then stands behind what was read.
-/
theorem readFrom_ahead (small : (records.map TapeRecord.size).sum ≤ usizeMax)
    (rest : List TapeRecord) :
    ∀ {cursor : TapeCursor} {out : Bytes} {wanted : Nat}, records.drop cursor.recordIndex = rest →
      Placed records cursor → wanted ≤ (ahead records cursor).length →
      ∃ next, readFrom (out.length + wanted) rest cursor out =
          some (out ++ (ahead records cursor).take wanted, next) ∧
        Advanced records cursor wanted next := by
  induction rest with
  | nil =>
    intro cursor out wanted here placed enough
    -- At the end of the tape nothing can be wanted.
    rw [ahead, here, lead, List.drop_nil, List.length_nil] at enough
    obtain rfl : wanted = 0 := by omega
    refine ⟨cursor, ?_, .zero placed⟩
    rw [List.take_zero, List.append_nil, Nat.add_zero, readFrom_full]
  | cons record rest ih =>
    intro cursor out wanted here placed enough
    by_cases none : wanted = 0
    · subst none
      refine ⟨cursor, ?_, .zero placed⟩
      rw [List.take_zero, List.append_nil, Nat.add_zero, readFrom_full]
    have more : out.length < out.length + wanted := by omega
    cases record with
    | filemark =>
      -- A filemark would end the read before it has what it wants.
      rw [ahead, here, lead, List.drop_nil, List.length_nil] at enough
      omega
    | data bytes =>
      have within := placed.offset_le here
      have start : min cursor.byteOffset bytes.length = cursor.byteOffset := by omega
      have remaining : out.length + wanted - out.length = wanted := by omega
      -- Everything that is wanted lies on the tape, so its end can be computed.
      have room : ¬ usizeMax < cursor.byteOffset + wanted := by
        have fits := placed.offset_add_ahead_le here
        omega
      simp only [readFrom, if_pos more, start, remaining, if_neg room]
      by_cases stops : cursor.byteOffset + wanted < bytes.length
      · have stop : min (cursor.byteOffset + wanted) bytes.length = cursor.byteOffset + wanted := by
          omega
        refine ⟨{ cursor with byteOffset := cursor.byteOffset + wanted }, ?_, .inside here stops⟩
        have taken : (ahead records cursor).take wanted = (bytes.drop cursor.byteOffset).take wanted := by
          rw [placed.ahead_split here, List.take_append_of_le_length]
          rw [List.length_drop]
          omega
        rw [stop, if_neg (by omega), List.drop_take, taken, Nat.add_sub_cancel_left]
      · have stop : min (cursor.byteOffset + wanted) bytes.length = bytes.length := by omega
        rw [stop, if_pos rfl, List.take_length]
        -- The read goes on behind the record, with so much less to take.
        rw [placed.ahead_split here, List.length_append, List.length_drop] at enough
        obtain ⟨later, read, advanced⟩ := @ih
          ⟨cursor.recordIndex + 1, 0⟩
          (out ++ bytes.drop cursor.byteOffset)
          (wanted - (bytes.length - cursor.byteOffset)) (drop_eq_cons here).2.1 (placed_next here)
          (by rw [ahead_next here]; omega)
        have whole : wanted = bytes.length - cursor.byteOffset +
            (wanted - (bytes.length - cursor.byteOffset)) := by omega
        have taken : (ahead records cursor).take wanted = bytes.drop cursor.byteOffset ++
            (lead rest).take (wanted - (bytes.length - cursor.byteOffset)) := by
          rw [placed.ahead_split here, List.take_append,
            List.take_of_length_le (by rw [List.length_drop]; omega), List.length_drop]
        have length : (out ++ bytes.drop cursor.byteOffset).length +
            (wanted - (bytes.length - cursor.byteOffset)) = out.length + wanted := by
          rw [List.length_append, List.length_drop]
          omega
        rw [length, ahead_next here] at read
        refine ⟨later, ?_, ?_⟩
        · rw [read, taken, List.append_assoc]
        · rw [whole]
          exact advanced.leaving placed here

/-- However much is asked for, a read leaves the head well placed. -/
theorem readFrom_placed {maxLen : Nat} (rest : List TapeRecord) :
    ∀ {cursor next : TapeCursor} {out read : Bytes}, records.drop cursor.recordIndex = rest →
      Placed records cursor → readFrom maxLen rest cursor out = some (read, next) →
        Placed records next := by
  -- The read goes record by record, and stops behind a filemark or inside a data record.
  induction rest with
  | nil =>
    intro cursor next out read here placed ran
    cases ran
    exact placed
  | cons record rest ih =>
    intro cursor next out read here placed ran
    simp only [readFrom] at ran
    split at ran
    · cases record with
      | filemark =>
        cases ran
        exact placed_next here
      | data bytes =>
        dsimp only at ran
        split at ran
        · cases ran
        · split at ran
          · exact ih (drop_eq_cons here).2.1 (placed_next here) ran
          · rename_i stops
            cases ran
            have less := Nat.lt_of_le_of_ne (Nat.min_le_right _ _) stops
            exact ⟨placed.inside, .inr ⟨bytes, (drop_eq_cons here).1, less⟩⟩
    · cases ran
      exact placed

/-- So does a seek. -/
theorem seekFrom_placed (rest : List TapeRecord) :
    ∀ {cursor : TapeCursor} {count : Nat}, records.drop cursor.recordIndex = rest →
      Placed records cursor → Placed records (seekFrom count rest cursor).2 := by
  -- A seek always stops at the beginning of a record.
  induction rest with
  | nil =>
    intro cursor count here placed
    cases count <;> exact placed
  | cons record rest ih =>
    intro cursor count here placed
    cases count with
    | zero => exact placed
    | succ count =>
      cases record <;> exact ih (drop_eq_cons here).2.1 (placed_next here)

end

end VirtualTape

end ColdStore
