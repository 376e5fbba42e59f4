import ColdStore.Rust.Iter
import ColdStore.Rust.Text
import ColdStore.Tape.VirtualTape

/-! A library moves tapes between slots and drives, and works on the tapes in its drives. -/

namespace ColdStore

open Rust

/-- The kinds of places a tape can be in. -/
inductive ElementKind where
  | slot
  | drive
  | importExport
  deriving DecidableEq

/-- A place, by kind and number. -/
structure ElementAddress where
  kind : ElementKind
  index : Nat
  deriving DecidableEq

/-- A place is written as its kind and its number. -/
def ElementAddress.display (address : ElementAddress) : String :=
  let kind := match address.kind with
    | .slot => "slot"
    | .drive => "drive"
    | .importExport => "import-export"
  kind ++ ":" ++ decimal address.index

/-- What can go wrong in the library. -/
inductive VtlError where
  | invalidElementAddress (text : String)
  | slotOutOfRange (index : Nat)
  | driveOutOfRange (index : Nat)
  | slotEmpty (index : Nat)
  | slotOccupied (index : Nat)
  | driveEmpty (index : Nat)
  | driveOccupied (index : Nat)
  | wrongElement (expected actual : String)
  | filemarkNotFound
  deriving DecidableEq

/-- The text of an error. -/
def VtlError.display : VtlError → String
  | .invalidElementAddress text => "invalid element address: " ++ text
  | .slotOutOfRange index => "slot " ++ decimal index ++ " does not exist"
  | .driveOutOfRange index => "drive " ++ decimal index ++ " does not exist"
  | .slotEmpty index => "slot " ++ decimal index ++ " is empty"
  | .slotOccupied index => "slot " ++ decimal index ++ " is already occupied"
  | .driveEmpty index => "drive " ++ decimal index ++ " is empty"
  | .driveOccupied index => "drive " ++ decimal index ++ " is already occupied"
  | .wrongElement expected actual => "expected " ++ expected ++ " element, got " ++ actual
  | .filemarkNotFound => "filemark not found before end of tape"

/-- A place for one tape. -/
structure Element where
  address : ElementAddress
  tape : Option VirtualTape := none
  deriving DecidableEq

/-- The name of the tape in a place. -/
def Element.barcode (element : Element) : Option String := element.tape.map VirtualTape.barcode

/-- Slots are numbered from one, drives from zero. -/
structure VirtualTapeLibrary where
  slots : List Element
  drives : List Element
  deriving DecidableEq

/-- The answer of the library and the library afterwards. -/
abbrev Moved (α : Type) := Except VtlError α × VirtualTapeLibrary

namespace VirtualTapeLibrary

/-- A library of empty slots and drives. -/
def new (slotCount driveCount : Nat) : VirtualTapeLibrary where
  slots := (List.range slotCount).map fun index => { address := ⟨.slot, index + 1⟩ }
  drives := (List.range driveCount).map fun index => { address := ⟨.drive, index⟩ }

variable (library : VirtualTapeLibrary) (address : ElementAddress)

def ensureSlot : Except VtlError Unit := do
  ensure (address.kind == .slot) (.wrongElement "slot" address.display)
  ensure (!(address.index == 0 || decide (library.slots.length < address.index)))
    (.slotOutOfRange address.index)

def ensureDrive : Except VtlError Unit := do
  ensure (address.kind == .drive) (.wrongElement "drive" address.display)
  ensure (decide (address.index < library.drives.length)) (.driveOutOfRange address.index)

/-- Whether an element is the one at an address. -/
def isAt (address : ElementAddress) (element : Element) : Bool := element.address == address

def slot : Except VtlError Element := do
  library.ensureSlot address
  okOr (.slotOutOfRange address.index) (library.slots.find? (isAt address))

def drive : Except VtlError Element := do
  library.ensureDrive address
  okOr (.driveOutOfRange address.index) (library.drives.find? (isAt address))

/-- Put what is given into a slot, whatever it held. -/
def setSlot (tape : Option VirtualTape) : VirtualTapeLibrary :=
  { library with
    slots := modifyFirst (isAt address) (fun element => { element with tape }) library.slots }

/-- Put what is given into a drive, whatever it held. -/
def setDrive (tape : Option VirtualTape) : VirtualTapeLibrary :=
  { library with
    drives := modifyFirst (isAt address) (fun element => { element with tape }) library.drives }

def takeFromSlot : Moved VirtualTape :=
  match library.slot address with
  | .error error => (.error error, library)
  | .ok element =>
    (okOr (.slotEmpty address.index) element.tape, library.setSlot address none)

def putIntoSlot (tape : VirtualTape) : Moved Unit :=
  match library.slot address with
  | .error error => (.error error, library)
  | .ok element =>
    if element.tape.isSome then (.error (.slotOccupied address.index), library)
    else (.ok (), library.setSlot address (some tape))

def takeFromDrive : Moved VirtualTape :=
  match library.drive address with
  | .error error => (.error error, library)
  | .ok element =>
    (okOr (.driveEmpty address.index) element.tape, library.setDrive address none)

def putIntoDrive (tape : VirtualTape) : Moved Unit :=
  match library.drive address with
  | .error error => (.error error, library)
  | .ok element =>
    if element.tape.isSome then (.error (.driveOccupied address.index), library)
    else (.ok (), library.setDrive address (some tape))

/-- Take a tape and put it elsewhere, where it may not arrive. -/
def andPut (taken : Moved VirtualTape)
    (put : VirtualTapeLibrary → VirtualTape → Moved Unit) : Moved Unit :=
  match taken with
  | (.error error, library) => (.error error, library)
  | (.ok tape, library) => put library tape

/-- Move a tape between slots and drives. -/
def moveMedium (source target : ElementAddress) : Moved Unit :=
  match source.kind, target.kind with
  | .slot, .slot => andPut (library.takeFromSlot source) fun library => library.putIntoSlot target
  | .slot, .drive => andPut (library.takeFromSlot source) fun library => library.putIntoDrive target
  | .drive, .slot => andPut (library.takeFromDrive source) fun library => library.putIntoSlot target
  | .drive, .drive => andPut (library.takeFromDrive source) fun library => library.putIntoDrive target
  | _, _ => (.error (.invalidElementAddress
      ("unsupported move from " ++ source.display ++ " to " ++ target.display)), library)

def insertTape (slot : ElementAddress) (barcode : String) : Moved Unit :=
  library.putIntoSlot slot { barcode }

def load (slot drive : ElementAddress) : Moved Unit := library.moveMedium slot drive

def unload (drive slot : ElementAddress) : Moved Unit := library.moveMedium drive slot

/-- Work on the tape in a drive. -/
def onLoadedTape {α : Type} (library : VirtualTapeLibrary) (address : ElementAddress)
    (work : VirtualTape → Except VtlError α × VirtualTape) : Moved α :=
  match library.drive address with
  | .error error => (.error error, library)
  | .ok element =>
    match element.tape with
    | none => (.error (.driveEmpty address.index), library)
    | some tape =>
      let (answer, tape) := work tape
      (answer, library.setDrive address (some tape))

def rewind (drive : ElementAddress) : Moved Unit :=
  library.onLoadedTape drive fun tape => (.ok (), tape.rewind)

def seekFilemark (drive : ElementAddress) (count : Nat) : Moved Unit :=
  library.onLoadedTape drive fun tape =>
    -- The head has moved to the end of the tape also when too few filemarks were found.
    let (found, tape) := tape.seekFilemark count
    (if found then .ok () else .error .filemarkNotFound, tape)

def writeFilemark (drive : ElementAddress) : Moved Unit :=
  library.onLoadedTape drive fun tape => (.ok (), tape.appendFilemark)

def write (drive : ElementAddress) (data : Bytes) : Moved Unit :=
  library.onLoadedTape drive fun tape => (.ok (), tape.appendData data)

/-- Read from the tape in a drive, unless the reader panics. -/
def read (maxLen : Nat) : Option (Moved Bytes) :=
  match library.drive address with
  | .error error => some (.error error, library)
  | .ok element =>
    match element.tape with
    | none => some (.error (.driveEmpty address.index), library)
    | some tape =>
      (tape.read maxLen).map fun (bytes, tape) => (.ok bytes, library.setDrive address (some tape))

end VirtualTapeLibrary

end ColdStore
