import ColdStore.Tape.Bundles

/-! Bundles on a tape stay readable as long as every bundle is written at the end of the tape. -/

namespace ColdStore

open Rust SimulatorState

/-- A call to the simulator backend that works on the tape in a drive. -/
inductive TapeCall where
  | writeBundle (data : Bytes)
  | readBundle (filemark length : Nat)
  | rewind
  | seekToFilemark (filemark : Nat)

/-- The backend, and the bundles it acknowledged with the numbers it returned for them. -/
structure TapeHistory where
  state : SimulatorState
  written : List (Nat × Bytes) := []

namespace TapeHistory

/-- Remember a bundle if its write was acknowledged. -/
def answered (past : TapeHistory) (data : Bytes) : Served (Nat × Nat) → TapeHistory
  | (.ok (start, _), s) => { state := s, written := past.written ++ [(start, data)] }
  | (.error _, s) => { past with state := s }

/-- The backend after a call to a drive, with what the call acknowledged. -/
def next (driveId : String) (past : TapeHistory) : TapeCall → TapeHistory
  | .writeBundle data => past.answered data (past.state.writeBundle driveId data)
  | .readBundle filemark length =>
    { past with state := (past.state.readBundle driveId filemark length).2 }
  | .rewind => { past with state := (past.state.rewind driveId).2 }
  | .seekToFilemark filemark =>
    { past with state := (past.state.seekToFilemark driveId filemark).2 }

/-- The backend after a sequence of calls. -/
def after (driveId : String) (past : TapeHistory) (calls : List TapeCall) : TapeHistory :=
  calls.foldl (next driveId) past

/-- Every acknowledged bundle reads back, with its own length and without a limit. -/
def Readable (driveId : String) (past : TapeHistory) : Prop :=
  ∀ start data, (start, data) ∈ past.written →
    ∀ length, length = data.length ∨ length = 0 →
      (past.state.readBundle driveId start length).1 = .ok data

/--
A write happens with the head at the end of the tape, and its number still fits 32 bits.

No slice is longer than a length can say.
-/
def WritesAtEnd (driveId : String) (past : TapeHistory) : TapeCall → Prop
  | .writeBundle data =>
    (∀ address tape, past.state.HoldsTape driveId address tape →
      tape.cursor.recordIndex = tape.records.length) ∧
    past.written.length < 2 ^ 32 ∧ data.length ≤ usizeMax
  | _ => True

/-- Every call of a sequence meets a condition on the backend it finds. -/
def Meets (driveId : String) (condition : TapeHistory → TapeCall → Prop)
    (past : TapeHistory) : List TapeCall → Prop
  | [] => True
  | call :: rest =>
    condition past call ∧ (past.next driveId call).Meets driveId condition rest

/-- The tape in the drive holds the acknowledged bundles under their numbers and nothing else. -/
structure Recorded (driveId : String) (address : ElementAddress) (past : TapeHistory)
    (tape : VirtualTape) (bundles : List Bytes) : Prop where
  holds : past.state.HoldsTape driveId address tape
  records : tape.records = bundleRecords bundles
  count : past.written.length = bundles.length
  numbers : ∀ start data, (start, data) ∈ past.written → bundles[start]? = some data
  small : ∀ data ∈ bundles, data.length ≤ usizeMax
  counted : address.index < past.state.nextFilemark.length
  counter : past.state.nextFilemark.getD address.index 0 = bundles.length % 2 ^ 32

variable {driveId : String} {address : ElementAddress} {past : TapeHistory} {tape : VirtualTape}
  {bundles : List Bytes}

variable (recorded : Recorded driveId address past tape bundles)

include recorded

/-- Recorded bundles are readable. -/
theorem Recorded.readable : past.Readable driveId := by
  intro start data mem length wanted
  have stored := recorded.numbers start data mem
  have small := recorded.small data (List.mem_of_getElem? stored)
  obtain ⟨_, _, _, answered⟩ :=
    readBundle_bundle recorded.holds recorded.records stored small wanted
  rw [answered]

/-- A call that only moves the head keeps what is recorded. -/
theorem Recorded.moved {next : VirtualTape} (same : next.records = tape.records) :
    Recorded driveId address { past with state := past.state.withTape address next } next
      bundles where
  holds := recorded.holds.withTape next
  records := same.trans recorded.records
  count := recorded.count
  numbers := recorded.numbers
  small := recorded.small
  counted := recorded.counted
  counter := recorded.counter

/-- A write at the end of the tape records one bundle more. -/
theorem Recorded.wrote {data : Bytes} (atEnd : past.WritesAtEnd driveId (.writeBundle data)) :
    ∃ tape, Recorded driveId address (past.next driveId (.writeBundle data)) tape
      (bundles ++ [data]) := by
  obtain ⟨head, room, short⟩ := atEnd
  have few : bundles.length < 2 ^ 32 := recorded.count ▸ room
  have start : past.state.nextFilemark.getD address.index 0 = bundles.length := by
    rw [recorded.counter, Nat.mod_eq_of_lt few]
  refine ⟨(tape.appendData data).appendFilemark, ?_⟩
  simp only [next, writeBundle_holds recorded.holds data, start, answered]
  refine ⟨⟨recorded.holds.parsed, (recorded.holds.withTape _).loaded⟩, ?_, ?_, ?_, ?_, ?_, ?_⟩
  · exact VirtualTape.append_bundle recorded.records (head _ _ recorded.holds) data
  · simp [recorded.count]
  · intro number bytes mem
    rcases List.mem_append.mp mem with old | new
    · -- Earlier bundles keep their places.
      have stored := recorded.numbers number bytes old
      have inside := (List.getElem?_eq_some_iff.mp stored).1
      rw [List.getElem?_append_left inside]
      exact stored
    · simp only [List.mem_singleton, Prod.mk.injEq] at new
      obtain ⟨rfl, rfl⟩ := new
      simp
  · intro bytes mem
    rcases List.mem_append.mp mem with old | new
    · exact recorded.small bytes old
    · simp only [List.mem_singleton] at new
      exact new ▸ short
  · simpa using recorded.counted
  · simp only [List.getD_eq_getElem?_getD, List.getElem?_set_self recorded.counted,
      Option.getD_some, List.length_append, List.length_singleton]

/-- One call that meets the condition keeps the bundles on the tape. -/
theorem Recorded.next {call : TapeCall} (admitted : past.WritesAtEnd driveId call) :
    ∃ tape bundles, Recorded driveId address (past.next driveId call) tape bundles := by
  cases call with
  | writeBundle data =>
    obtain ⟨tape, wrote⟩ := recorded.wrote admitted
    exact ⟨tape, _, wrote⟩
  | readBundle filemark length =>
    cases found : (tape.positioned filemark).1 with
    | true =>
      obtain ⟨_, after, _, same, _, answered⟩ := readBundle_found recorded.holds found length
      simp only [TapeHistory.next, answered]
      exact ⟨after, bundles, recorded.moved same⟩
    | false =>
      -- A read that fails leaves the head at the end of the tape.
      simp only [TapeHistory.next, readBundle_missing recorded.holds found length]
      exact ⟨_, bundles, recorded.moved rfl⟩
  | rewind =>
    simp only [TapeHistory.next, SimulatorState.rewind, given, recorded.holds.parsed,
      VirtualTapeLibrary.rewind, ran_onLoadedTape recorded.holds.loaded]
    exact ⟨_, bundles, recorded.moved rfl⟩
  | seekToFilemark filemark =>
    simp only [TapeHistory.next, seekToFilemark, given, recorded.holds.parsed,
      position_loaded recorded.holds.loaded]
    exact ⟨_, bundles, recorded.moved rfl⟩

/-- What one call keeps, calls one after the other keep. -/
theorem Recorded.readable_after {calls : List TapeCall}
    (meets : past.Meets driveId (WritesAtEnd driveId) calls) :
    (past.after driveId calls).Readable driveId := by
  induction calls generalizing past tape bundles with
  | nil => exact recorded.readable
  | cons call rest ih =>
    obtain ⟨next, more, kept⟩ := recorded.next meets.1
    exact ih kept meets.2

end TapeHistory

open TapeHistory in
/--
On a tape that is written only at its end every acknowledged bundle stays readable.

Reads, rewinds and seeks may come in any order between the writes, but the head has to be back at
the end of the tape whenever a bundle is written.
-/
theorem bundles_stay_readable (driveId : String) (address : ElementAddress) (barcode : String)
    (first : SimulatorState) (calls : List TapeCall)
    (loaded : first.HoldsTape driveId address { barcode })
    (counted : first.nextFilemark[address.index]? = some 0)
    (admitted : Meets driveId (WritesAtEnd driveId) { state := first } calls) :
    (TapeHistory.after driveId { state := first } calls).Readable driveId := by
  have inside := (List.getElem?_eq_some_iff.mp counted).1
  have recorded : Recorded driveId address { state := first } { barcode } [] :=
    { holds := loaded, records := rfl, count := rfl, numbers := by simp, small := by simp,
      counted := inside, counter := by simp [List.getD_eq_getElem?_getD, counted] }
  exact recorded.readable_after admitted

open TapeHistory in
/-- Two bundles are written to one tape, with a read in between. -/
theorem bundles_stay_readable_oneDrive :
    (TapeHistory.after "drive-0" { state := oneDrive }
      [.writeBundle [97], .readBundle 0 0, .writeBundle [98]]).Readable "drive-0" := by
  refine bundles_stay_readable "drive-0" ⟨.drive, 0⟩ "TAPE-1" oneDrive _ ⟨rfl, _, rfl, rfl⟩ rfl ?_
  -- Each write finds the head where the one tape ends.
  refine ⟨⟨?_, by decide, by decide⟩, trivial, ⟨?_, by decide, by decide⟩, trivial⟩
  all_goals
    rintro address tape ⟨parsed, element, found, inside⟩
    cases parsed
    cases found
    cases inside
    rfl

/--
A short read leaves the head before the filemark, and the next bundle is written there.

It destroys the filemark, so neither bundle can be read any more.
-/
theorem bundle_lost_after_short_read :
    (TapeHistory.after "drive-0" { state := oneDrive }
      [.writeBundle [97], .readBundle 0 1, .writeBundle [98]]).written = [(0, [97]), (1, [98])] ∧
    ((TapeHistory.after "drive-0" { state := oneDrive }
      [.writeBundle [97], .readBundle 0 1, .writeBundle [98]]).state.readBundle "drive-0" 1 1).1
        = .ok [] ∧
    ((TapeHistory.after "drive-0" { state := oneDrive }
      [.writeBundle [97], .readBundle 0 1, .writeBundle [98]]).state.readBundle "drive-0" 0 0).1
        = .ok [97, 98] := by
  decide

end ColdStore
