import ColdStore.Tape.Segments
import Mathlib.Data.List.ReduceOption

/-! The head of a tape: where seeks put it, what reads take from it and what writes leave in front. -/

namespace ColdStore.VirtualTape

open Rust Relation

/-! Reads in pieces. -/

/-- Reads one after the other that each return as much as was asked for. -/
inductive ReadExactly : VirtualTape → List Nat → List Bytes → VirtualTape → Prop
  | nil (tape : VirtualTape) : ReadExactly tape [] [] tape
  | cons {tape next last : VirtualTape} {chunk : Nat} {piece : Bytes} {chunks : List Nat}
      {pieces : List Bytes} (read : tape.read chunk = some (piece, next))
      (exact : piece.length = chunk)
      (advanced : next.currentPosition = tape.currentPosition + piece.length)
      (later : ReadExactly next chunks pieces last) :
      ReadExactly tape (chunk :: chunks) (piece :: pieces) last

/-- The data from the head of a tape to the next filemark is read in pieces of any sizes. -/
theorem readExactly_ahead {tape : VirtualTape} (small : tape.usedBytes ≤ usizeMax)
    (placed : Placed tape.records tape.cursor) {chunks : List Nat}
    (enough : chunks.sum ≤ (ahead tape.records tape.cursor).length) :
    ∃ pieces last, ReadExactly tape chunks pieces last ∧
      pieces.flatten = (ahead tape.records tape.cursor).take chunks.sum := by
  -- By induction on the sizes: behind one piece, the others are still ahead.
  induction chunks generalizing tape with
  | nil => exact ⟨[], tape, .nil tape, rfl⟩
  | cons chunk chunks ih =>
    rw [List.sum_cons] at enough
    obtain ⟨cursor, read, advanced⟩ := @readFrom_ahead tape.records small _ tape.cursor [] chunk rfl
      placed (by omega)
    rw [List.length_nil, Nat.zero_add, List.nil_append] at read
    have ran : tape.read chunk = some ((ahead tape.records tape.cursor).take chunk,
        { tape with cursor }) := by
      rw [VirtualTape.read, read, Option.map_some]
    have length : ((ahead tape.records tape.cursor).take chunk).length = chunk :=
      List.length_take_of_le (by omega)
    have fewer : chunks.sum ≤ (ahead tape.records cursor).length := by
      rw [advanced.ahead, List.length_drop]
      omega
    obtain ⟨pieces, last, later, rest⟩ := @ih { tape with cursor } small advanced.placed fewer
    refine ⟨(ahead tape.records tape.cursor).take chunk :: pieces, last,
      .cons ran length ?_ later, ?_⟩
    · rw [length]
      exact advanced.position
    · have others : pieces.flatten = ((ahead tape.records tape.cursor).drop chunk).take chunks.sum := by
        rw [rest, ← advanced.ahead]
      rw [List.flatten_cons, others, List.sum_cons, List.take_add]

variable {tape : VirtualTape}

/-- Behind a number of filemarks that are there, the segment of that number is ahead. -/
theorem positioned_ahead {count : Nat} (found : (tape.positioned count).1 = true) :
    ∃ segment, (segments tape.records)[count]? = some segment ∧
      Placed tape.records (tape.positioned count).2.cursor ∧
      ahead tape.records (tape.positioned count).2.cursor = segment := by
  have inside : count < (segments tape.records).length := by
    rw [length_segments]
    exact Nat.lt_succ_of_le ((positioned_iff tape count).mp found)
  -- The seek starts at the first record and passes the given number of filemarks.
  obtain ⟨passed, bound, index, split⟩ := seekFrom_snd count tape.records {}
  have offset := tape.positioned_offset count
  have place : (tape.positioned count).2.cursor.recordIndex = passed := by
    simpa [positioned, seekFilemark, rewind] using index
  refine ⟨(segments tape.records)[count], List.getElem?_eq_getElem inside, ⟨?_, .inl offset⟩, ?_⟩
  · rw [place]
    exact bound
  · have first := head?_segments (tape.records.drop passed)
    rw [split inside, List.head?_drop, List.getElem?_eq_getElem inside] at first
    rw [ahead, offset, place, List.drop_zero]
    exact (Option.some.inj first).symm

/--
From the beginning of the tape a seek finds each filemark that is there, and no other. Behind it,
reads of any sizes return the data up to the next filemark or the end of the tape, piece by piece.

The tape fits into memory.
-/
theorem segment_read_in_pieces (tape : VirtualTape) (small : tape.usedBytes ≤ usizeMax)
    (count : Nat) : ((tape.positioned count).1 = true ↔ count ≤ tape.filemarks) ∧
    ((tape.positioned count).1 = true → ∃ segment, (segments tape.records)[count]? = some segment ∧
      ∀ chunks : List Nat, chunks.sum ≤ segment.length →
        ∃ pieces last, ReadExactly (tape.positioned count).2 chunks pieces last ∧
          pieces.flatten = segment.take chunks.sum) := by
  refine ⟨positioned_iff tape count, fun found => ?_⟩
  obtain ⟨segment, listed, placed, here⟩ := positioned_ahead found
  refine ⟨segment, listed, fun chunks enough => ?_⟩
  rw [← here] at enough ⊢
  exact @readExactly_ahead (tape.positioned count).2 small placed chunks enough

/-- A record in front of a filemark, and two records of different lengths behind it. -/
def twoSegments : VirtualTape :=
  { barcode := "T00001L9", records := [.data [1], .filemark, .data [2, 3], .data [4, 5, 6]] }

/-- Behind the filemark, pieces of three, none and one octet reach into the second record. -/
theorem segment_read_in_pieces_twoSegments :
    ∃ pieces last, ReadExactly (twoSegments.positioned 1).2 [3, 0, 1] pieces last ∧
      pieces.flatten = [2, 3, 4, 5] := by
  obtain ⟨_, found⟩ := segment_read_in_pieces twoSegments (by decide) 1
  obtain ⟨segment, listed, reads⟩ := found (by decide)
  obtain rfl : [2, 3, 4, 5, 6] = segment := Option.some.inj listed
  exact reads [3, 0, 1] (by decide)

/-! Writes at the head. -/

/-- The calls that write to a tape, read from it or move its head. -/
inductive Handled : VirtualTape → VirtualTape → Prop
  | appendData (tape : VirtualTape) (bytes : Bytes) : Handled tape (tape.appendData bytes)
  | appendFilemark (tape : VirtualTape) : Handled tape tape.appendFilemark
  | read {tape next : VirtualTape} {maxLen : Nat} {piece : Bytes}
      (ran : tape.read maxLen = some (piece, next)) : Handled tape next
  | rewind (tape : VirtualTape) : Handled tape tape.rewind
  | seekFilemark (tape : VirtualTape) (count : Nat) : Handled tape (tape.seekFilemark count).2

/-- A record that is written has the head behind it. -/
theorem append_placed (tape : VirtualTape) (record : TapeRecord) :
    Placed (tape.append record).records (tape.append record).cursor := ⟨Nat.le_refl _, .inl rfl⟩

theorem Handled.placed {before after : VirtualTape} (handled : Handled before after)
    (placed : Placed before.records before.cursor) : Placed after.records after.cursor := by
  cases handled with
  | appendData bytes => exact append_placed before (.data bytes)
  | appendFilemark => exact append_placed before .filemark
  | read ran =>
    obtain ⟨⟨piece, cursor⟩, read, same⟩ := Option.map_eq_some_iff.mp ran
    cases same
    exact readFrom_placed _ rfl placed read
  | rewind => exact ⟨Nat.zero_le _, .inl rfl⟩
  | seekFilemark count => exact seekFrom_placed _ rfl placed

/-- On every tape that was once blank, the head is well placed. -/
theorem placed_of_handled {barcode : String} (reached : ReflTransGen Handled { barcode } tape) :
    Placed tape.records tape.cursor :=
  Process.kept_along (fun tape : VirtualTape => Placed tape.records tape.cursor)
    Handled.placed reached ⟨Nat.le_refl 0, .inl rfl⟩

/-- The octets and filemarks of records, as they pass under the head. -/
def marks (records : List TapeRecord) : List (Option UInt8) :=
  records.flatMap fun
    | .data bytes => bytes.map some
    | .filemark => [none]

theorem marks_cons (record : TapeRecord) (rest : List TapeRecord) :
    marks (record :: rest) = marks [record] ++ marks rest := by simp [marks]

/-- What lies in front of the head. -/
def before (tape : VirtualTape) : List (Option UInt8) :=
  marks (tape.records.take tape.cursor.recordIndex) ++
    (marks (tape.records.drop tape.cursor.recordIndex)).take tape.cursor.byteOffset

/-- What lies in front of the head and what does not is the whole tape. -/
theorem before_append_behind (tape : VirtualTape) :
    tape.before ++ (marks (tape.records.drop tape.cursor.recordIndex)).drop tape.cursor.byteOffset =
      marks tape.records := by
  rw [before, List.append_assoc, List.take_append_drop, marks, marks, ← List.flatMap_append,
    List.take_append_drop, marks]

/-- A record under the head has as many octets in front of the head as the offset tells. -/
theorem Placed.marks_under (placed : Placed tape.records tape.cursor) :
    ∃ octets : Bytes, octets.length = tape.cursor.byteOffset ∧
      (marks (tape.records.drop tape.cursor.recordIndex)).take tape.cursor.byteOffset =
        octets.map some := by
  rcases placed.within with start | ⟨bytes, found, less⟩
  · exact ⟨[], start.symm, by rw [start, List.take_zero, List.map_nil]⟩
  · -- The record at the head comes first among the records from the head on.
    obtain ⟨inside, there⟩ := List.getElem?_eq_some_iff.mp found
    refine ⟨bytes.take tape.cursor.byteOffset, List.length_take_of_le less.le, ?_⟩
    rw [List.drop_eq_getElem_cons inside, there, marks, List.flatMap_cons,
      List.take_append_of_le_length (by simpa using less.le), List.map_take]

theorem length_reduceOption_marks (records : List TapeRecord) :
    (marks records).reduceOption.length = (records.map TapeRecord.size).sum := by
  induction records with
  | nil => rfl
  | cons record rest ih =>
    rw [marks_cons, List.reduceOption_append, List.length_append, ih, List.map_cons, List.sum_cons]
    cases record with
    | data bytes => simp [marks, TapeRecord.size, List.reduceOption]
    | filemark => simp [marks, TapeRecord.size]

theorem count_none_marks (records : List TapeRecord) :
    (marks records).count none = (records.filter fun record => record == .filemark).length := by
  induction records with
  | nil => rfl
  | cons record rest ih =>
    rw [marks_cons, List.count_append, ih]
    cases record with
    | data bytes => simp [marks, List.count_eq_zero]
    | filemark => simp [marks, Nat.add_comm]

section

variable (placed : Placed tape.records tape.cursor)

include placed

/-- The octets in front of the head are those that the position counts. -/
theorem Placed.octets_before : tape.before.reduceOption.length = tape.currentPosition := by
  obtain ⟨octets, length, under⟩ := placed.marks_under
  rw [before, under, List.reduceOption_append, List.length_append, length_reduceOption_marks,
    currentPosition]
  simp [List.reduceOption, length]

/-- The filemarks in front of the head are those that it counts in 32 bits. -/
theorem Placed.filemarks_before : tape.before.count none % 2 ^ 32 = tape.currentFilemark := by
  obtain ⟨octets, _, under⟩ := placed.marks_under
  have none_under : (octets.map some).count none = 0 := by simp [List.count_eq_zero]
  rw [before, under, List.count_append, count_none_marks, none_under, currentFilemark, Nat.add_zero]

/-- A write keeps what lies in front of a head that stands between two records. -/
theorem Placed.append_keeps (record : TapeRecord) :
    marks (tape.append record).records = tape.before ++ marks [record] ↔
      tape.cursor.byteOffset = 0 := by
  obtain ⟨octets, length, under⟩ := placed.marks_under
  rw [append, marks, List.flatMap_append, ← marks, ← marks, before, under, List.append_left_inj,
    ← length, List.length_eq_zero_iff]
  simp

end

theorem usedBytes_appendData (tape : VirtualTape) (bytes : Bytes) :
    (tape.appendData bytes).usedBytes + tape.cursor.byteOffset =
      tape.currentPosition + bytes.length := by
  have sizes : (tape.appendData bytes).usedBytes =
      ((tape.records.take tape.cursor.recordIndex).map TapeRecord.size).sum + bytes.length := by
    simp [usedBytes, appendData, append, TapeRecord.size]
  rw [sizes, currentPosition]
  omega

/--
What lies in front of the head is the beginning of the tape, with the octets that the position
counts and the filemarks that the head has passed.

Data and filemarks that are written go behind it, and what lies behind the head is gone, if the head
stands between two records. Inside a record, the octets of the record in front of the head are gone
as well.
-/
theorem append_keeps_before_iff {barcode : String} {tape : VirtualTape}
    (reached : ReflTransGen Handled { barcode } tape) :
    (tape.before <+: marks tape.records ∧ tape.before.reduceOption.length = tape.currentPosition ∧
      tape.before.count none % 2 ^ 32 = tape.currentFilemark) ∧
    (∀ bytes, (marks (tape.appendData bytes).records = tape.before ++ bytes.map some ↔
        tape.cursor.byteOffset = 0) ∧
      ((tape.appendData bytes).usedBytes = tape.currentPosition + bytes.length ↔
        tape.cursor.byteOffset = 0)) ∧
    (marks tape.appendFilemark.records = tape.before ++ [none] ↔ tape.cursor.byteOffset = 0) := by
  -- Every handled tape has its head on a record or behind the last one.
  have placed := placed_of_handled reached
  refine ⟨⟨⟨_, tape.before_append_behind⟩, placed.octets_before, placed.filemarks_before⟩,
    fun bytes => ⟨?_, ?_⟩, placed.append_keeps .filemark⟩
  · have written : marks [.data bytes] = bytes.map some := by rw [marks, List.flatMap_singleton]
    rw [← written]
    exact placed.append_keeps (.data bytes)
  · have used := tape.usedBytes_appendData bytes
    omega

/-- A tape with a record of three octets, and the head behind the first of them. -/
def insideRecord : VirtualTape :=
  { barcode := "T00001L9", records := [.data [1, 2, 3]], cursor := { byteOffset := 1 } }

/-- It comes from a blank tape: a write, a rewind and a read of one octet. -/
theorem insideRecord_reached : ReflTransGen Handled { barcode := "T00001L9" } insideRecord := by
  have written : ReflTransGen Handled { barcode := "T00001L9" }
      (appendData { barcode := "T00001L9" } [1, 2, 3]) := .single (.appendData _ _)
  have rewound := written.tail (.rewind _)
  exact rewound.tail (@Handled.read _ insideRecord 1 [1] rfl)

/-- A tape with a record on either side of a filemark, wound to the place behind the filemark. -/
def betweenRecords : VirtualTape :=
  let written := (appendData { barcode := "T00001L9" } [1, 2]).appendFilemark.appendData [3]
  (written.rewind.seekFilemark 1).2

/-- There, a record that is written keeps the first record and the filemark, and takes the place of
the last record. -/
theorem append_keeps_before_iff_betweenRecords :
    betweenRecords.before = [some 1, some 2, none] ∧
      marks betweenRecords.records = betweenRecords.before ++ [some 3] ∧
      marks (betweenRecords.appendData [9]).records = betweenRecords.before ++ [some 9] := by
  have reached : ReflTransGen Handled { barcode := "T00001L9" } betweenRecords :=
    .tail (.tail (.tail (.tail (.single (.appendData _ [1, 2])) (.appendFilemark _))
      (.appendData _ [3])) (.rewind _)) (.seekFilemark _ 1)
  exact ⟨by decide, by decide, ((append_keeps_before_iff reached).2.1 [9]).1.mpr rfl⟩

/-- Behind the first octet, a record of one octet takes the place of all three. -/
theorem append_drops_octet :
    ReflTransGen Handled { barcode := "T00001L9" } insideRecord ∧
      insideRecord.currentPosition = 1 ∧ insideRecord.before = [some 1] ∧
      marks (insideRecord.appendData [9]).records = [some 9] ∧
      (insideRecord.appendData [9]).usedBytes = 1 ∧
      marks insideRecord.appendFilemark.records = [none] := ⟨insideRecord_reached, by decide⟩

end ColdStore.VirtualTape
