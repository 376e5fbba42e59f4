import ColdStore.Tape.Library

/-! The simulator backend of the tape service: drives that are leased, and bundles on tapes. -/

namespace ColdStore

open Rust

/-- The library, which drives are leased, and the filemark counter of each drive. -/
structure SimulatorState where
  library : VirtualTapeLibrary
  acquired : List Bool
  nextFilemark : List Nat
  deriving DecidableEq

structure AcquireDriveResponse where
  driveId : String
  currentTape : Option String
  deriving DecidableEq

/-- The answer of the backend and the backend afterwards. -/
abbrev Served (α : Type) := Except Status α × SimulatorState

/-- The status an error of the library is reported with. -/
def vtlStatus (error : VtlError) : Status :=
  match error with
  | .slotEmpty _ | .slotOccupied _ | .driveEmpty _ | .driveOccupied _ | .filemarkNotFound =>
    .failedPrecondition error.display
  | .slotOutOfRange _ | .driveOutOfRange _ | .wrongElement _ _ | .invalidElementAddress _ =>
    .invalidArgument error.display

/-- Report the error of a library call, if it failed. -/
def mapVtl {α : Type} (answer : Except VtlError α) : Except Status α := answer.mapError vtlStatus

def parseSlotId (slotId : String) : Except Status ElementAddress := do
  let raw := (stripPrefix slotId "slot-").getD slotId
  let index ← okOr (.invalidArgument ("invalid slot id: " ++ slotId)) (parseUnsigned 32 raw)
  ensure (index != 0) (.invalidArgument "slot ids are 1-based")
  pure ⟨.slot, index⟩

def parseDriveId (driveId : String) : Except Status ElementAddress := do
  let raw := (stripPrefix driveId "drive-").getD driveId
  let index ← okOr (.invalidArgument ("invalid drive id: " ++ driveId)) (parseUnsigned 32 raw)
  pure ⟨.drive, index⟩

def driveIdString (index : Nat) : String := "drive-" ++ decimal index

namespace SimulatorState

def new (slotCount driveCount : Nat) : SimulatorState where
  library := .new slotCount driveCount
  acquired := List.replicate driveCount false
  nextFilemark := List.replicate driveCount 0

variable (s : SimulatorState)

/-- The number of a drive that exists. -/
def driveIndex (driveId : String) : Except Status Nat := do
  let address ← parseDriveId driveId
  let _ ← mapVtl (s.library.drive address)
  pure address.index

/-- Keep the library an operation left. -/
def ran {α : Type} (s : SimulatorState) (moved : Moved α) : Served α :=
  (mapVtl moved.1, { s with library := moved.2 })

/-- Stop with a failure and leave everything as it is, or go on with the checked value. -/
def given {α β : Type} (s : SimulatorState) (check : Except Status α)
    (rest : α → Served β) : Served β :=
  match check with
  | .ok value => rest value
  | .error status => (.error status, s)

/-- Go on after an operation of the library, or stop with its failure. -/
def andThen {α β : Type} (served : Served α) (rest : α → SimulatorState → Served β) : Served β :=
  match served with
  | (.ok value, s) => rest value s
  | (.error status, s) => (.error status, s)

def insertTape (slotId tapeId : String) : Served Unit :=
  s.given (parseSlotId slotId) fun slot => s.ran (s.library.insertTape slot tapeId)

def findSlotWithTape (tapeId : String) : Except Status ElementAddress :=
  okOr (.notFound ("tape " ++ tapeId ++ " not found in simulator slots"))
    ((s.library.slots.find? fun slot => slot.barcode == some tapeId).map Element.address)

def findEmptySlot : Except Status ElementAddress :=
  okOr (.failedPrecondition "no empty simulator slot is available")
    ((s.library.slots.find? fun slot => slot.tape.isNone).map Element.address)

/-- The drive to lease: the preferred one, or the first free one with the required tape. -/
def selectDrive (preferredDriveId requiredTapeId : Option String) : Except Status Nat :=
  match preferredDriveId with
  | some preferred => s.driveIndex preferred
  | none =>
    okOr (.resourceExhausted "no matching simulator drive is free")
      ((s.library.drives.find? fun drive =>
        !s.acquired.getD drive.address.index false &&
          (match requiredTapeId with
          | none => true
          | some tapeId => drive.barcode == some tapeId)).map fun drive => drive.address.index)

/-- Lease a drive, if it is free and holds the required tape. -/
def acquireDrive (preferredDriveId requiredTapeId : Option String) : Served AcquireDriveResponse :=
  s.given (s.selectDrive preferredDriveId requiredTapeId) fun index =>
  s.given (ensure (!s.acquired.getD index false) (.failedPrecondition
    ("drive " ++ driveIdString index ++ " is already acquired"))) fun _ =>
  s.given (mapVtl (s.library.drive ⟨.drive, index⟩)) fun drive =>
  s.given (match requiredTapeId with
    | none => .ok ()
    | some tapeId => ensure (drive.barcode == some tapeId) (.failedPrecondition
        ("drive " ++ driveIdString index ++ " does not contain required tape " ++ tapeId))) fun _ =>
  (.ok { driveId := driveIdString index, currentTape := drive.barcode },
    { s with acquired := s.acquired.set index true })

def releaseDrive (driveId : String) : Served Unit := s.given (s.driveIndex driveId) fun index =>
    (.ok (), { s with acquired := s.acquired.set index false })

/-- Load a tape from the given slot, or from wherever it is. -/
def loadTape (tapeId driveId : String) (slotId : Option String) : Served Unit :=
  s.given (parseDriveId driveId) fun drive =>
  s.given (mapVtl (s.library.drive drive)) fun _ =>
  s.given (match slotId with
    | some slotId => parseSlotId slotId
    | none => s.findSlotWithTape tapeId) fun slot =>
  s.given (mapVtl (s.library.slot slot)) fun element =>
  s.given (ensure (element.barcode == some tapeId) (.failedPrecondition
    ("slot " ++ slot.display ++ " does not contain tape " ++ tapeId))) fun _ =>
  s.ran (s.library.load slot drive)

/-- Unload a tape into the given slot, or into the first empty one. -/
def unloadTape (driveId : String) (targetSlotId : Option String) : Served Unit :=
  s.given (parseDriveId driveId) fun drive =>
  s.given (mapVtl (s.library.drive drive)) fun _ =>
  s.given (match targetSlotId with
    | some slotId => parseSlotId slotId
    | none => s.findEmptySlot) fun slot =>
  s.ran (s.library.unload drive slot)

def rewind (driveId : String) : Served Unit :=
  s.given (parseDriveId driveId) fun drive => s.ran (s.library.rewind drive)

/-- Move the head of a drive to the beginning, and from there past the given number of filemarks. -/
def position (drive : ElementAddress) (filemark : Nat) : Served Unit :=
  andThen (s.ran (s.library.rewind drive)) fun _ s =>
    if 0 < filemark then s.ran (s.library.seekFilemark drive filemark)
    else (.ok (), s)

def seekToFilemark (driveId : String) (filemark : Nat) : Served Unit :=
  s.given (parseDriveId driveId) fun drive => s.position drive filemark

/-- Write a bundle and a filemark at the head, and number it by the counter of the drive. -/
def writeBundle (driveId : String) (data : Bytes) : Served (Nat × Nat) :=
  s.given (parseDriveId driveId) fun drive =>
  s.given (mapVtl (s.library.drive drive)) fun _ =>
  let filemarkStart := s.nextFilemark.getD drive.index 0
  andThen (s.ran (s.library.write drive data)) fun _ s =>
  andThen (s.ran (s.library.writeFilemark drive)) fun _ s =>
  -- The counter has 32 bits.
  let filemarkEnd := (filemarkStart + 1) % 2 ^ 32
  (.ok (filemarkStart, filemarkEnd),
    { s with nextFilemark := s.nextFilemark.set drive.index filemarkEnd })

/-- Read a bundle behind the given number of filemarks, all of it when the length is zero. -/
def readBundle (driveId : String) (filemark length : Nat) : Served Bytes :=
  s.given (parseDriveId driveId) fun drive =>
  andThen (s.position drive filemark) fun _ s =>
  let maxLen := if length = 0 then usizeMax else min length usizeMax
  match s.library.read drive maxLen with
  | some moved => s.ran moved
  -- The head is at the beginning of a record here, so this is never reached.
  | none => (.error (.internal "simulator tape backend mutex poisoned"), s)

end SimulatorState

/-- A simulator with one drive, and one blank tape in it. -/
def oneDrive : SimulatorState where
  library := {
    slots := [{ address := ⟨.slot, 1⟩ }],
    drives := [{ address := ⟨.drive, 0⟩, tape := some { barcode := "TAPE-1" } }] }
  acquired := [false]
  nextFilemark := [0]

end ColdStore
