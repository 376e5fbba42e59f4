import ColdStore.Tape.Counting
import ColdStore.Tape.Leases

/-! Which drives are leased, which tapes there are, and which calls change that. -/

namespace ColdStore

open Rust Process Relation

namespace VirtualTapeLibrary

/-- Where the drives are, whatever they hold. -/
def driveAddresses (library : VirtualTapeLibrary) : List ElementAddress :=
  library.drives.map Element.address

@[simp] theorem driveAddresses_setDrive (library : VirtualTapeLibrary) (address : ElementAddress)
    (tape : Option VirtualTape) :
    (library.setDrive address tape).driveAddresses = library.driveAddresses := by
  unfold driveAddresses setDrive
  exact map_modifyFirst (by exact fun _ => rfl) library.drives

@[simp] theorem driveAddresses_setPlace (library : VirtualTapeLibrary) (address : ElementAddress)
    (tape : Option VirtualTape) :
    (library.setPlace address tape).driveAddresses = library.driveAddresses := by
  unfold setPlace
  split
  · rfl
  · exact library.driveAddresses_setDrive address tape
  · rfl

variable {library : VirtualTapeLibrary}

/-- How a tape is used: it gets other contents in its place, or it is moved or lost on the way. -/
inductive Uses (library : VirtualTapeLibrary) : VirtualTapeLibrary → Prop where
  | worked {address : ElementAddress} {tape next : VirtualTape}
      (held : library.holds address = some tape) (same : next.barcode = tape.barcode) :
      Uses library (library.setPlace address (some next))
  | moved {source target : ElementAddress} {result : Moved Unit}
      (move : library.Move source target result) : Uses library result.2

/-- However tapes are used, the drives are where they were. -/
theorem driveAddresses_of_uses {after : VirtualTapeLibrary} (used : ReflTransGen Uses library after) :
    after.driveAddresses = library.driveAddresses := by
  refine kept_along (fun after => after.driveAddresses = library.driveAddresses) ?_ used rfl
  intro before after uses same
  cases uses with
  | worked => simpa using same
  | moved move => cases move <;> simpa using same

variable {address : ElementAddress}

theorem uses_setDrive {element : Element} {tape next : VirtualTape}
    (found : library.drive address = .ok element) (inside : element.tape = some tape)
    (same : next.barcode = tape.barcode) : library.Uses (library.setDrive address (some next)) := by
  have kind := (index_lt_of_drive found).1
  have uses := Uses.worked ((loaded_iff_holds kind).mp ⟨element, found, inside⟩) same
  simpa only [setPlace, kind] using uses

theorem onLoadedTape_uses {α : Type} {work : VirtualTape → Except VtlError α × VirtualTape}
    (same : ∀ tape, (work tape).2.barcode = tape.barcode) :
    ReflTransGen Uses library (library.onLoadedTape address work).2 := by
  unfold onLoadedTape
  split
  · exact .refl
  · split
    · exact .refl
    · rename_i found _ _ inside
      exact .single (uses_setDrive found inside (same _))

theorem read_uses {maxLen : Nat} {moved : Moved Bytes}
    (read : library.read address maxLen = some moved) : ReflTransGen Uses library moved.2 := by
  unfold VirtualTapeLibrary.read at read
  split at read
  · cases read
    exact .refl
  · split at read
    · cases read
      exact .refl
    · rename_i found _ _ inside
      obtain ⟨_, answer, rfl⟩ := Option.map_eq_some_iff.mp read
      obtain ⟨_, _, rfl⟩ := Option.map_eq_some_iff.mp answer
      exact .single (uses_setDrive found inside rfl)

/-- Whether a drive exists depends on where the drives are. -/
theorem exists_drive_iff {address : ElementAddress} :
    (∃ element, library.drive address = .ok element) ↔ address.kind = .drive ∧
      address.index < library.driveAddresses.length ∧ address ∈ library.driveAddresses := by
  simp [drive, ensureDrive, bind_eq_ok, okOr_eq_ok, ensure_eq_ok, driveAddresses,
    ← Option.isSome_iff_exists, isAt]

end VirtualTapeLibrary

namespace SimulatorState

/-- The drives are the same ones, and the same ones of them are leased. -/
structure SameLeases (before after : SimulatorState) : Prop where
  acquired : after.acquired = before.acquired
  drives : after.library.driveAddresses = before.library.driveAddresses

theorem SameLeases.refl (s : SimulatorState) : s.SameLeases s := ⟨rfl, rfl⟩

theorem SameLeases.trans {first second third : SimulatorState} (left : first.SameLeases second)
    (right : second.SameLeases third) : first.SameLeases third :=
  ⟨right.acquired.trans left.acquired, right.drives.trans left.drives⟩

variable {s : SimulatorState} {driveId : String} {index : Nat}

theorem driveIndex_eq_ok :
    s.driveIndex driveId = .ok index ↔ parseDriveId driveId = .ok ⟨.drive, index⟩ ∧
      ∃ element, s.library.drive ⟨.drive, index⟩ = .ok element := by
  simp only [driveIndex, bind_eq_ok, mapVtl]
  constructor
  · rintro ⟨address, parsed, element, found, ⟨⟩⟩
    have kind := kind_of_parseDriveId parsed
    obtain ⟨_, index⟩ := address
    obtain rfl : _ = ElementKind.drive := kind
    cases there : s.library.drive ⟨.drive, index⟩ with
    | ok element => exact ⟨parsed, element, rfl⟩
    | error error =>
      rw [there] at found
      cases found
  · rintro ⟨parsed, element, found⟩
    exact ⟨_, parsed, element, by rw [found]; rfl, rfl⟩

/-- Drives that exist keep their names. -/
theorem driveIndex_congr {other : SimulatorState}
    (same : other.library.driveAddresses = s.library.driveAddresses)
    (found : s.driveIndex driveId = .ok index) : other.driveIndex driveId = .ok index := by
  obtain ⟨parsed, there⟩ := driveIndex_eq_ok.mp found
  exact driveIndex_eq_ok.mpr ⟨parsed, VirtualTapeLibrary.exists_drive_iff.mpr
    (same ▸ VirtualTapeLibrary.exists_drive_iff.mp there)⟩

/-- A drive that was found by some name is found by its own. -/
theorem driveIndex_driveIdString (found : s.driveIndex driveId = .ok index) :
    s.driveIndex (driveIdString index) = .ok index := by
  obtain ⟨parsed, there⟩ := driveIndex_eq_ok.mp found
  refine driveIndex_eq_ok.mpr ⟨parseDriveId_driveIdString ?_, there⟩
  simp only [parseDriveId, bind_eq_ok, okOr_eq_ok] at parsed
  obtain ⟨number, read, made⟩ := parsed
  cases made
  exact parseUnsigned_lt read

/-! Leasing a drive and giving it back. -/

/-- What an attempt to lease a drive can do. -/
inductive Grants (s : SimulatorState) (preferredDriveId requiredTapeId : Option String) :
    Served AcquireDriveResponse → Prop where
  | refused (status : Status) : Grants s preferredDriveId requiredTapeId (.error status, s)
  | granted (index : Nat) (currentTape : Option String)
      (chosen : s.selectDrive preferredDriveId requiredTapeId = .ok index)
      (there : ∃ element, s.library.drive ⟨.drive, index⟩ = .ok element)
      (free : s.acquired.getD index false = false) :
      Grants s preferredDriveId requiredTapeId (.ok ⟨driveIdString index, currentTape⟩,
        { s with acquired := s.acquired.set index true })

theorem acquireDrive_grants (s : SimulatorState) (preferredDriveId requiredTapeId : Option String) :
    s.Grants preferredDriveId requiredTapeId (s.acquireDrive preferredDriveId requiredTapeId) := by
  refine given_of .refused fun index chosen => given_of .refused fun _ free =>
    given_of .refused fun drive found => given_of .refused fun _ _ => ?_
  rw [ensure_eq_ok, Bool.not_eq_true'] at free
  cases there : s.library.drive ⟨.drive, index⟩ with
  | ok element => exact .granted index drive.barcode chosen ⟨element, there⟩ free
  | error error =>
    rw [there] at found
    cases found

/-- Leasing a drive and giving it back leaves no trace. -/
theorem set_true_set_false {marks : List Bool} (free : marks.getD index false = false) :
    (marks.set index true).set index false = marks := by
  rw [List.set_set]
  by_cases inside : index < marks.length
  · rw [List.getD_eq_getElem?_getD, List.getElem?_eq_getElem inside, Option.getD_some] at free
    rw [← free, List.set_getElem_self]
  · exact List.set_eq_of_length_le (by omega)

/-! The calls that leave the leases alone. -/

/-- A call has left the leases as they were, and has only used the tapes that are there. -/
def Handles {α : Type} (s : SimulatorState) (served : Served α) : Prop :=
  served.2.acquired = s.acquired ∧ ReflTransGen VirtualTapeLibrary.Uses s.library served.2.library

variable {α : Type}

theorem Handles.sameLeases {served : Served α} (handles : s.Handles served) :
    s.SameLeases served.2 := ⟨handles.1, VirtualTapeLibrary.driveAddresses_of_uses handles.2⟩

theorem handles_failed (status : Status) : s.Handles ((.error status, s) : Served α) := ⟨rfl, .refl⟩

theorem handles_andThen {β : Type} {served : Served α} {rest : α → SimulatorState → Served β}
    (first : s.Handles served) (second : ∀ value, served.2.Handles (rest value served.2)) :
    s.Handles (andThen served rest) := by
  obtain ⟨answer, after⟩ := served
  cases answer with
  | ok value => exact ⟨(second value).1.trans first.1, first.2.trans (second value).2⟩
  | error status => exact first

theorem handles_moveMedium (s : SimulatorState) (source target : ElementAddress) :
    s.Handles (s.ran (s.library.moveMedium source target)) :=
  ⟨rfl, .single (.moved (s.library.moveMedium_move source target))⟩

theorem loadTape_handles (s : SimulatorState) (tapeId driveId : String)
    (slotId : Option String) : s.Handles (s.loadTape tapeId driveId slotId) := by
  have moving := s.loadTape_moving tapeId driveId slotId
  generalize s.loadTape tapeId driveId slotId = served at moving
  cases moving with
  | failed status => exact handles_failed status
  | moved source target _ => exact handles_moveMedium s source target

theorem unloadTape_handles (s : SimulatorState) (driveId : String)
    (targetSlotId : Option String) : s.Handles (s.unloadTape driveId targetSlotId) :=
  given_of handles_failed fun drive _ => given_of handles_failed fun _ _ =>
    given_of handles_failed fun slot _ => handles_moveMedium s drive slot

theorem handles_onLoadedTape (s : SimulatorState) (address : ElementAddress)
    {work : VirtualTape → Except VtlError α × VirtualTape}
    (same : ∀ tape, (work tape).2.barcode = tape.barcode) :
    s.Handles (s.ran (s.library.onLoadedTape address work)) :=
  ⟨rfl, VirtualTapeLibrary.onLoadedTape_uses same⟩

theorem writeBundleFromMessages_handles (s : SimulatorState)
    (messages : List (Message WriteBundleMeta)) :
    s.Handles (s.writeBundleFromMessages messages) := by
  refine given_of handles_failed fun (bundle, data) _ => handles_andThen ?_ fun _ => ⟨rfl, .refl⟩
  refine given_of handles_failed fun drive _ => given_of handles_failed fun _ _ => ?_
  refine handles_andThen (handles_onLoadedTape s drive fun _ => rfl) fun _ => ?_
  exact handles_andThen (handles_onLoadedTape _ drive fun _ => rfl) fun _ => ⟨rfl, .refl⟩

theorem position_handles (s : SimulatorState) (drive : ElementAddress) (filemark : Nat) :
    s.Handles (s.position drive filemark) := by
  refine handles_andThen (handles_onLoadedTape s drive fun _ => rfl) fun _ => ?_
  split
  · exact handles_onLoadedTape _ drive fun _ => rfl
  · exact ⟨rfl, .refl⟩

theorem readBundleStream_handles (s : SimulatorState) (driveId : String)
    (location : Option ReadLocation) (length : Nat) :
    s.Handles (s.readBundleStream driveId location length) := by
  refine given_of handles_failed fun filemark _ => handles_andThen ?_ fun _ => ⟨rfl, .refl⟩
  refine given_of handles_failed fun drive _ =>
    handles_andThen (position_handles s drive filemark) fun _ => ?_
  dsimp only
  split
  · rename_i read
    exact ⟨rfl, VirtualTapeLibrary.read_uses read⟩
  · exact ⟨rfl, .refl⟩

end SimulatorState

end ColdStore
