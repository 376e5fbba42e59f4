import ColdStore.Tape.Simulator

/-! What the calls of the simulator backend do to the tape in one drive. -/

namespace ColdStore

open Rust

namespace VirtualTapeLibrary

/-- A drive holds a tape. -/
def Loaded (library : VirtualTapeLibrary) (address : ElementAddress) (tape : VirtualTape) : Prop :=
  ∃ element, library.drive address = .ok element ∧ element.tape = some tape

variable {library : VirtualTapeLibrary}

/-- The tape put into a drive is the one found there. -/
theorem loaded_setDrive {address : ElementAddress} {tape : VirtualTape}
    (loaded : library.Loaded address tape) (next : VirtualTape) :
    (library.setDrive address (some next)).Loaded address next := by
  obtain ⟨element, found, _⟩ := loaded
  simp only [drive, Rust.bind_eq_ok, okOr_eq_ok] at found
  obtain ⟨_, inside, listed⟩ := found
  have here := List.find?_some listed
  refine ⟨{ element with tape := some next }, ?_, rfl⟩
  -- The drives keep their number and their addresses.
  have checked : (library.setDrive address (some next)).ensureDrive address = .ok () := by
    simpa [ensureDrive, setDrive] using inside
  have again : (library.setDrive address (some next)).drives.find? (isAt address)
      = some { element with tape := some next } :=
    find?_modifyFirst listed (by simpa [isAt] using here)
  simp only [drive, checked, again, okOr, Bind.bind, Except.bind]

/-- Replacing the tape in a drive twice is replacing it by the second one. -/
@[simp] theorem setDrive_setDrive (library : VirtualTapeLibrary) (address : ElementAddress)
    (first second : Option VirtualTape) :
    (library.setDrive address first).setDrive address second = library.setDrive address second := by
  have twice := modifyFirst_modifyFirst (isAt address) (fun element => { element with tape := first })
    (fun element => { element with tape := second }) (fun _ here => here) library.drives
  simp only [setDrive, twice]
  rfl

end VirtualTapeLibrary

namespace VirtualTape

/-- Where the head is after going to the beginning and past filemarks, and whether there were enough. -/
def positioned (tape : VirtualTape) (filemark : Nat) : Bool × VirtualTape :=
  tape.rewind.seekFilemark filemark

variable (tape : VirtualTape)

/-- Seeking puts the head between two records. -/
theorem seekFrom_offset (count : Nat) (records : List TapeRecord) (cursor : TapeCursor)
    (aligned : cursor.byteOffset = 0) : (seekFrom count records cursor).2.byteOffset = 0 := by
  induction records generalizing count cursor with
  | nil => cases count <;> exact aligned
  | cons record rest ih =>
    cases count with
    | zero => exact aligned
    | succ count => cases record <;> exact ih _ _ rfl

theorem positioned_offset (filemark : Nat) : (tape.positioned filemark).2.cursor.byteOffset = 0 :=
  seekFrom_offset _ _ _ rfl

/-- From the beginning of a record the end of what is wanted is always in range. -/
theorem readFrom_isSome {maxLen : Nat} (bounded : maxLen ≤ usizeMax) (records : List TapeRecord)
    (cursor : TapeCursor) (aligned : cursor.byteOffset = 0) (out : Bytes) :
    (readFrom maxLen records cursor out).isSome = true := by
  induction records generalizing cursor out with
  | nil => rfl
  | cons record rest ih =>
    simp only [readFrom]
    split
    · cases record with
      | filemark => rfl
      | data bytes =>
        have room : ¬ usizeMax < min cursor.byteOffset bytes.length + (maxLen - out.length) := by
          rw [aligned]
          omega
        simp only [if_neg room]
        split
        · exact ih _ rfl _
        · rfl
    · rfl

end VirtualTape

namespace SimulatorState

/-- A drive id names a drive that holds a tape. -/
structure HoldsTape (s : SimulatorState) (driveId : String) (address : ElementAddress)
    (tape : VirtualTape) : Prop where
  parsed : parseDriveId driveId = .ok address
  loaded : s.library.Loaded address tape

/-- The library of a simulator after the tape in a drive was replaced. -/
def withTape (s : SimulatorState) (address : ElementAddress) (tape : VirtualTape) :
    SimulatorState := { s with library := s.library.setDrive address (some tape) }

variable {s : SimulatorState} {driveId : String} {address : ElementAddress} {tape : VirtualTape}

theorem HoldsTape.withTape (holds : s.HoldsTape driveId address tape) (next : VirtualTape) :
    (s.withTape address next).HoldsTape driveId address next :=
  ⟨holds.parsed, VirtualTapeLibrary.loaded_setDrive holds.loaded next⟩

@[simp] theorem withTape_withTape (s : SimulatorState) (address : ElementAddress)
    (first second : VirtualTape) :
    (s.withTape address first).withTape address second = s.withTape address second := by
  simp [SimulatorState.withTape]

/-- An operation on the tape in a drive answers for that tape. -/
theorem ran_onLoadedTape {α : Type} (loaded : s.library.Loaded address tape)
    (work : VirtualTape → Except VtlError α × VirtualTape) :
    s.ran (s.library.onLoadedTape address work) =
      (mapVtl (work tape).1, s.withTape address (work tape).2) := by
  obtain ⟨element, found, holds⟩ := loaded
  simp only [VirtualTapeLibrary.onLoadedTape, found, holds]
  rfl

/-- Positioning answers whether there were enough filemarks and moves the head only. -/
theorem position_loaded (loaded : s.library.Loaded address tape) (filemark : Nat) :
    s.position address filemark =
      (if (tape.positioned filemark).1 then .ok () else .error (vtlStatus .filemarkNotFound),
        s.withTape address (tape.positioned filemark).2) := by
  have held : (s.withTape address tape.rewind).library.Loaded address tape.rewind :=
    VirtualTapeLibrary.loaded_setDrive loaded tape.rewind
  simp only [position, VirtualTapeLibrary.rewind, ran_onLoadedTape loaded, andThen, mapVtl,
    Except.mapError]
  split
  · -- The second move starts from the rewound tape.
    simp only [VirtualTapeLibrary.seekFilemark, ran_onLoadedTape held, withTape_withTape]
    by_cases found : (tape.rewind.seekFilemark filemark).1 = true
    · simp [VirtualTape.positioned, found, mapVtl, Except.mapError]
    · simp [VirtualTape.positioned, found, mapVtl, Except.mapError]
  · rename_i none
    obtain rfl : filemark = 0 := by omega
    simp [VirtualTape.positioned, VirtualTape.seekFilemark, VirtualTape.seekFrom]

/-- Writing puts the bundle and a filemark at the head and counts one filemark more. -/
theorem writeBundle_holds (holds : s.HoldsTape driveId address tape) (data : Bytes) :
    s.writeBundle driveId data =
      (.ok (s.nextFilemark.getD address.index 0,
          (s.nextFilemark.getD address.index 0 + 1) % 2 ^ 32),
        { s.withTape address (tape.appendData data).appendFilemark with
          nextFilemark := s.nextFilemark.set address.index
            ((s.nextFilemark.getD address.index 0 + 1) % 2 ^ 32) }) := by
  obtain ⟨element, found, _⟩ := holds.loaded
  have held := (holds.withTape (tape.appendData data)).loaded
  simp only [writeBundle, given, holds.parsed, found, mapVtl, Except.mapError,
    VirtualTapeLibrary.write, ran_onLoadedTape holds.loaded, andThen,
    VirtualTapeLibrary.writeFilemark, ran_onLoadedTape held, withTape_withTape]
  rfl

/-- How much a read asks the tape for. -/
def readLength (length : Nat) : Nat := if length = 0 then usizeMax else min length usizeMax

theorem readLength_le (length : Nat) : readLength length ≤ usizeMax := by
  simp only [readLength]
  split <;> omega

/-- Reading behind filemarks that exist answers what the positioned tape reads. -/
theorem readBundle_found (holds : s.HoldsTape driveId address tape) {filemark : Nat}
    (enough : (tape.positioned filemark).1 = true) (length : Nat) :
    ∃ bytes next, (tape.positioned filemark).2.read (readLength length) = some (bytes, next) ∧
      next.records = tape.records ∧ next.barcode = tape.barcode ∧
      s.readBundle driveId filemark length = (.ok bytes, s.withTape address next) := by
  -- The head is at the beginning of a record, so the reader does not panic.
  have reads := VirtualTape.readFrom_isSome (readLength_le length)
    ((tape.positioned filemark).2.records.drop (tape.positioned filemark).2.cursor.recordIndex)
    (tape.positioned filemark).2.cursor (tape.positioned_offset filemark) []
  obtain ⟨⟨bytes, cursor⟩, got⟩ := Option.isSome_iff_exists.mp reads
  have read : (tape.positioned filemark).2.read (readLength length)
      = some (bytes, { (tape.positioned filemark).2 with cursor }) := by
    simp only [VirtualTape.read, got, Option.map_some]
  obtain ⟨element, found, inside⟩ := (holds.withTape (tape.positioned filemark).2).loaded
  refine ⟨bytes, _, read, rfl, rfl, ?_⟩
  rw [readLength] at read
  simp only [readBundle, given, holds.parsed, position_loaded holds.loaded, enough, if_true,
    andThen, VirtualTapeLibrary.read, found, inside, read, Option.map_some, ran, mapVtl,
    Except.mapError]
  simp [SimulatorState.withTape]

/-- Reading behind filemarks that do not exist fails and leaves the head at the end. -/
theorem readBundle_missing (holds : s.HoldsTape driveId address tape) {filemark : Nat}
    (missing : (tape.positioned filemark).1 = false) (length : Nat) :
    s.readBundle driveId filemark length =
      (.error (vtlStatus .filemarkNotFound), s.withTape address (tape.positioned filemark).2) := by
  simp only [readBundle, given, holds.parsed, position_loaded holds.loaded, missing, andThen]
  rfl

end SimulatorState

end ColdStore
