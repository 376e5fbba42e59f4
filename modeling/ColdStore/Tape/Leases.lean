import ColdStore.Tape.Bundles
import ColdStore.Tape.Service

/-! A drive that is leased for one call after the other, and the tape that stays in it. -/

namespace ColdStore

open Rust

/-- A drive is known by the name it is reported under. -/
theorem parseDriveId_driveIdString {index : Nat} (small : index < 2 ^ 32) :
    parseDriveId (driveIdString index) = .ok ⟨.drive, index⟩ := by
  simp only [parseDriveId, driveIdString, stripPrefix_append, Option.getD_some,
    parseUnsigned_decimal small, okOr, Bind.bind, Except.bind]
  rfl

theorem driveIdString_ne (index : Nat) : driveIdString index ≠ "" := by
  intro empty
  have := congrArg String.length empty
  simp [driveIdString] at this

namespace SimulatorState

/-- A drive holds a tape, and its counter shows a number. -/
structure Holds (s : SimulatorState) (index : Nat) (tape : VirtualTape) (counter : Nat) : Prop where
  small : index < 2 ^ 32
  loaded : s.library.Loaded ⟨.drive, index⟩ tape
  counted : s.nextFilemark[index]? = some counter

/-- A drive holds a tape and is not leased. -/
structure HoldsFree (s : SimulatorState) (index : Nat) (tape : VirtualTape) (counter : Nat) :
    Prop extends s.Holds index tape counter where
  free : s.acquired.getD index false = false

variable {s : SimulatorState} {index : Nat} {tape : VirtualTape} {counter : Nat}

variable (holds : s.Holds index tape counter)

include holds

/-- The drive is addressed by the name it is reported under. -/
theorem Holds.holdsTape : s.HoldsTape (driveIdString index) ⟨.drive, index⟩ tape :=
  ⟨parseDriveId_driveIdString holds.small, holds.loaded⟩

/-- There is one tape in a drive, and one number on its counter. -/
theorem Holds.unique {other : VirtualTape} {count : Nat} (again : s.Holds index other count) :
    other = tape ∧ count = counter := by
  obtain ⟨element, found, inside⟩ := holds.loaded
  obtain ⟨element', found', inside'⟩ := again.loaded
  rw [found, Except.ok.injEq] at found'
  subst found'
  rw [inside, Option.some.injEq] at inside'
  have counted := holds.counted.symm.trans again.counted
  rw [Option.some.injEq] at counted
  exact ⟨inside'.symm, counted.symm⟩

theorem Holds.driveIndex {driveId : String} (parsed : parseDriveId driveId = .ok ⟨.drive, index⟩) :
    s.driveIndex driveId = .ok index := by
  obtain ⟨element, found, _⟩ := holds.loaded
  simp [SimulatorState.driveIndex, parsed, found, mapVtl, Except.mapError, Bind.bind, Except.bind,
    Pure.pure, Except.pure]

/-- A lease does not touch the drive. -/
theorem Holds.leased (acquired : List Bool) :
    ({ s with acquired } : SimulatorState).Holds index tape counter :=
  ⟨holds.small, holds.loaded, holds.counted⟩

omit holds in
/-- A free drive is leased, and the tape in it is reported. -/
theorem acquireDrive_free (holds : s.HoldsFree index tape counter) {driveId : String}
    (parsed : parseDriveId driveId = .ok ⟨.drive, index⟩) :
    s.acquireDrive (some driveId) none = (.ok ⟨driveIdString index, some tape.barcode⟩,
      { s with acquired := s.acquired.set index true }) := by
  obtain ⟨element, found, inside⟩ := holds.loaded
  simp only [acquireDrive, selectDrive, given, holds.toHolds.driveIndex parsed, holds.free,
    Bool.not_false, ensure, if_true, found, mapVtl, Except.mapError, Element.barcode, inside,
    Option.map_some]

/-- A drive that is given back is free. -/
theorem releaseDrive_frees :
    s.releaseDrive (driveIdString index) =
        (.ok (), { s with acquired := s.acquired.set index false }) ∧
      ({ s with acquired := s.acquired.set index false } : SimulatorState).HoldsFree index
        tape counter := by
  constructor
  · simp only [releaseDrive, given, holds.driveIndex (parseDriveId_driveIdString holds.small)]
  · refine ⟨holds.leased _, ?_⟩
    by_cases inside : index < s.acquired.length <;> simp [inside]

/-- A bundle is written at the head and counted. -/
theorem writeBundleFromMessages_holds (bundleId : String) (objectCount blockSize : Nat)
    (data : Bytes) :
    ∃ after, s.writeBundleFromMessages [
        some (.metadata ⟨driveIdString index, bundleId, data.length, objectCount, blockSize⟩),
        some (.data data)] =
      (.ok ⟨driveIdString index, bundleId, data.length, counter, (counter + 1) % 2 ^ 32, none, true,
        none⟩, after) ∧
      after.Holds index (tape.appendData data).appendFilemark ((counter + 1) % 2 ^ 32) := by
  have received : receiveBundle [
      some (.metadata ⟨driveIdString index, bundleId, data.length, objectCount, blockSize⟩),
      some (.data data)] =
        .ok (⟨driveIdString index, bundleId, data.length, objectCount, blockSize⟩, data) := by
    simp [receiveBundle, collectBundle, ensure, Bind.bind, Except.bind, Pure.pure, Except.pure]
  have inside : index < s.nextFilemark.length := (List.getElem?_eq_some_iff.mp holds.counted).1
  have counted : s.nextFilemark.getD index 0 = counter := by
    rw [List.getD_eq_getElem?_getD, holds.counted, Option.getD_some]
  refine ⟨{ s.withTape ⟨.drive, index⟩ (tape.appendData data).appendFilemark with
    nextFilemark := s.nextFilemark.set index ((counter + 1) % 2 ^ 32) }, ?_, holds.small,
    VirtualTapeLibrary.loaded_setDrive holds.loaded _, ?_⟩
  · simp only [writeBundleFromMessages, received, given, writeBundle_holds holds.holdsTape data,
      counted, andThen]
  · simp [inside]

/-- A bundle is read back by its number. -/
theorem readBundleStream_holds {bundles : List Bytes}
    (records : tape.records = bundleRecords bundles) {number : Nat} {data : Bytes}
    (stored : bundles[number]? = some data) (small : data.length ≤ usizeMax) :
    ∃ after next, s.readBundleStream (driveIdString index) (some (.filemark number))
        data.length = (.ok (some (.metadata ⟨data.length, none⟩) ::
          if data.isEmpty then [] else [some (.data data)]), after) ∧
      after.Holds index next counter ∧ next.records = tape.records ∧
      next.barcode = tape.barcode := by
  obtain ⟨next, same, name, read⟩ :=
    readBundle_bundle holds.holdsTape records stored small (Or.inl rfl)
  refine ⟨s.withTape ⟨.drive, index⟩ next, next, ?_, ⟨holds.small, VirtualTapeLibrary.loaded_setDrive
    holds.loaded _, holds.counted⟩, same, name⟩
  simp only [readBundleStream, given, read, andThen]

end SimulatorState

end ColdStore
