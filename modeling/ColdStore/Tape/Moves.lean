import ColdStore.Tape.SimulatorLaws

/-! Which place holds which tape, and everything a move can do to that. -/

namespace ColdStore

open Rust

namespace VirtualTapeLibrary

variable (library : VirtualTapeLibrary) (address : ElementAddress)

/-- The place at an address. -/
def place : Except VtlError Element :=
  match address.kind with
  | .slot => library.slot address
  | .drive => library.drive address
  | .importExport => .error (.invalidElementAddress address.display)

/-- Put what is given into a place, whatever it held. -/
def setPlace (tape : Option VirtualTape) : VirtualTapeLibrary :=
  match address.kind with
  | .slot => library.setSlot address tape
  | .drive => library.setDrive address tape
  | .importExport => library

/-- The tape in a place. -/
def holds : Option VirtualTape :=
  match library.place address with
  | .ok element => element.tape
  | .error _ => none

/-- A place that exists and holds no tape. -/
def Vacant : Prop := ∃ element, library.place address = .ok element ∧ element.tape = none

variable {library address}

/-- A place that holds a tape exists. -/
theorem place_of_holds {tape : VirtualTape} (held : library.holds address = some tape) :
    ∃ element, library.place address = .ok element := by
  simp only [holds] at held
  split at held
  · exact ⟨_, by assumption⟩
  · cases held

/-- A loaded drive is a place that holds a tape. -/
theorem loaded_iff_holds (kind : address.kind = .drive) {tape : VirtualTape} :
    library.Loaded address tape ↔ library.holds address = some tape := by
  simp only [Loaded, holds, place, kind]
  cases library.drive address <;> simp

/-! Replacing the tape in one place. -/

/-- The elements at an address are the same ones after one of them got another tape. -/
theorem find?_replaced (address other : ElementAddress) (tape : Option VirtualTape)
    (elements : List Element) :
    (modifyFirst (isAt address) (fun element => { element with tape }) elements).find?
        (isAt other) = if other = address then (elements.find? (isAt address)).map fun element =>
        { element with tape }
      else elements.find? (isAt other) := by
  by_cases same : other = address
  · rw [if_pos same, same]
    cases found : elements.find? (isAt address) with
    | none =>
      rw [Option.map_none, List.find?_eq_none]
      rw [List.find?_eq_none] at found
      intro element mem
      -- Nothing is at the address, so nothing has changed.
      rw [modifyFirst_of_none found] at mem
      exact found element mem
    | some element =>
      have here := List.find?_some found
      exact find?_modifyFirst found (by simpa [isAt] using here)
  · rw [if_neg same]
    refine find?_modifyFirst_other fun element here => ?_
    have at_address : element.address = address := by simpa [isAt] using here
    simp [isAt, at_address, Ne.symm same]

section

variable (library : VirtualTapeLibrary) (address other : ElementAddress) (tape : Option VirtualTape)

theorem ensureSlot_setSlot :
    (library.setSlot address tape).ensureSlot other = library.ensureSlot other := by
  simp [ensureSlot, setSlot]

theorem ensureDrive_setDrive :
    (library.setDrive address tape).ensureDrive other = library.ensureDrive other := by
  simp [ensureDrive, setDrive]

/-- A slot got another tape, and the other slots are as they were. -/
theorem slot_setSlot :
    (library.setSlot address tape).slot other =
      if other = address then (library.slot address).map fun element => { element with tape }
      else library.slot other := by
  have found := find?_replaced address other tape library.slots
  simp only [slot, ensureSlot_setSlot]
  by_cases same : other = address
  · subst same
    rw [if_pos rfl] at found ⊢
    simp only [setSlot, found]
    cases library.ensureSlot other <;> cases library.slots.find? (isAt other) <;> rfl
  · rw [if_neg same] at found ⊢
    simp only [setSlot, found]

/-- A drive got another tape, and the other drives are as they were. -/
theorem drive_setDrive :
    (library.setDrive address tape).drive other =
      if other = address then (library.drive address).map fun element => { element with tape }
      else library.drive other := by
  have found := find?_replaced address other tape library.drives
  simp only [drive, ensureDrive_setDrive]
  by_cases same : other = address
  · subst same
    rw [if_pos rfl] at found ⊢
    simp only [setDrive, found]
    cases library.ensureDrive other <;> cases library.drives.find? (isAt other) <;> rfl
  · rw [if_neg same] at found ⊢
    simp only [setDrive, found]

/-- One place got another tape, and the other places are as they were. -/
theorem place_setPlace :
    (library.setPlace address tape).place other =
      if other = address then (library.place address).map fun element => { element with tape }
      else library.place other := by
  by_cases same : other = address
  · subst same
    rw [if_pos rfl]
    obtain ⟨kind, index⟩ := other
    cases kind with
    | slot => exact (library.slot_setSlot _ _ tape).trans (if_pos rfl)
    | drive => exact (library.drive_setDrive _ _ tape).trans (if_pos rfl)
    | importExport => rfl
  · rw [if_neg same]
    obtain ⟨kind, index⟩ := address
    obtain ⟨otherKind, otherIndex⟩ := other
    -- Places of another kind are in another list.
    cases kind with
    | slot =>
      cases otherKind with
      | slot => exact (library.slot_setSlot _ _ tape).trans (if_neg same)
      | drive | importExport => rfl
    | drive =>
      cases otherKind with
      | drive => exact (library.drive_setDrive _ _ tape).trans (if_neg same)
      | slot | importExport => rfl
    | importExport => rfl

end

/-- The tape put into a place that exists is there, and the others are where they were. -/
theorem holds_setPlace {element : Element} (found : library.place address = .ok element)
    (other : ElementAddress) (tape : Option VirtualTape) :
    (library.setPlace address tape).holds other =
      if other = address then tape else library.holds other := by
  simp only [holds, place_setPlace]
  by_cases same : other = address
  · simp only [if_pos same, found, Except.map]
  · simp only [if_neg same]

/-- Emptying a place that holds nothing changes nothing. -/
theorem setPlace_bare {element : Element} (found : library.place address = .ok element)
    (bare : element.tape = none) : library.setPlace address none = library := by
  have same : { element with tape := none } = element := by rw [← bare]
  obtain ⟨kind, index⟩ := address
  cases kind with
  | slot =>
    simp only [place, slot, bind_eq_ok, okOr_eq_ok] at found
    obtain ⟨_, _, found⟩ := found
    have kept : modifyFirst _ (fun element => { element with tape := none }) library.slots = _ :=
      modifyFirst_of_same found same
    simp only [setPlace, setSlot, kept]
  | drive =>
    simp only [place, drive, bind_eq_ok, okOr_eq_ok] at found
    obtain ⟨_, _, found⟩ := found
    have kept : modifyFirst _ (fun element => { element with tape := none }) library.drives = _ :=
      modifyFirst_of_same found same
    simp only [setPlace, setDrive, kept]
  | importExport => rfl

/-! What a move can do. -/

/-- The failure when a place holds no tape. -/
def bareError (address : ElementAddress) : VtlError :=
  if address.kind = .drive then .driveEmpty address.index else .slotEmpty address.index

/-- The failure when a place holds a tape already. -/
def occupiedError (address : ElementAddress) : VtlError :=
  if address.kind = .drive then .driveOccupied address.index else .slotOccupied address.index

variable (library : VirtualTapeLibrary) (address : ElementAddress)

/-- Take the tape out of a slot or a drive. -/
def takeFrom : Moved VirtualTape :=
  match library.place address with
  | .error error => (.error error, library)
  | .ok element => (okOr (bareError address) element.tape, library.setPlace address none)

/-- Put a tape into a slot or a drive. -/
def putInto (tape : VirtualTape) : Moved Unit :=
  match library.place address with
  | .error error => (.error error, library)
  | .ok element =>
    if element.tape.isSome then (.error (occupiedError address), library)
    else (.ok (), library.setPlace address (some tape))

/-- A move is taking and putting, whatever the kinds of the places are. -/
theorem moveMedium_eq {source target : ElementAddress} (from_place : source.kind ≠ .importExport)
    (to_place : target.kind ≠ .importExport) :
    library.moveMedium source target =
      andPut (library.takeFrom source) fun library => library.putInto target := by
  obtain ⟨kind, index⟩ := source
  obtain ⟨otherKind, otherIndex⟩ := target
  cases kind <;> cases otherKind <;> first | rfl | exact absurd rfl from_place | exact absurd rfl to_place

/-- Places of the third kind take no part in moves. -/
theorem moveMedium_unsupported {source target : ElementAddress}
    (outside : source.kind = .importExport ∨ target.kind = .importExport) :
    library.moveMedium source target = (.error (.invalidElementAddress
      ("unsupported move from " ++ source.display ++ " to " ++ target.display)), library) := by
  obtain ⟨kind, index⟩ := source
  obtain ⟨otherKind, otherIndex⟩ := target
  cases kind <;> cases otherKind <;> first | rfl | simp at outside

/-- Everything that a move can do. -/
inductive Move (library : VirtualTapeLibrary) (source target : ElementAddress) :
    Moved Unit → Prop where
  /-- The tape has arrived. -/
  | moved (tape : VirtualTape) (held : library.holds source = some tape)
      (free : (library.setPlace source none).Vacant target) :
      Move library source target (.ok (), (library.setPlace source none).setPlace target (some tape))
  /-- There was nothing to move, or no way to move it. -/
  | refused (error : VtlError)
      (idle : library.holds source = none ∨ target.kind = .importExport) :
      Move library source target (.error error, library)
  /-- The tape was taken, and nobody put it anywhere. -/
  | lost (tape : VirtualTape) (error : VtlError) (held : library.holds source = some tape)
      (reachable : target.kind ≠ .importExport)
      (taken : ¬ (library.setPlace source none).Vacant target) :
      Move library source target (.error error, library.setPlace source none)

/-- A move does one of these things. -/
theorem moveMedium_move (source target : ElementAddress) :
    Move library source target (library.moveMedium source target) := by
  by_cases outside : source.kind = .importExport ∨ target.kind = .importExport
  · rw [library.moveMedium_unsupported outside]
    refine .refused _ (outside.imp_left fun kind => ?_)
    simp only [holds, place, kind]
  obtain ⟨from_place, to_place⟩ := not_or.mp outside
  rw [library.moveMedium_eq from_place to_place, takeFrom]
  cases found : library.place source with
  | error error => exact .refused error (.inl (by simp only [holds, found]))
  | ok element =>
    cases inside : element.tape with
    | none =>
      have same := setPlace_bare found inside
      simp only [inside, okOr, andPut, same]
      exact .refused _ (.inl (by simp only [holds, found, inside]))
    | some tape =>
      have held : library.holds source = some tape := by simp only [holds, found, inside]
      simp only [inside, okOr, andPut, putInto]
      cases there : (library.setPlace source none).place target with
      | error error =>
        refine .lost tape error held to_place ?_
        rintro ⟨other, ok, _⟩
        rw [there] at ok
        cases ok
      | ok other =>
        cases occupied : other.tape with
        | some blocking =>
          simp only [occupied, Option.isSome_some, if_true]
          refine .lost tape _ held to_place ?_
          rintro ⟨again, ok, bare⟩
          rw [there, Except.ok.injEq] at ok
          rw [← ok, occupied] at bare
          cases bare
        | none =>
          simp only [occupied, Option.isSome_none, Bool.false_eq_true, if_false]
          exact .moved tape held ⟨other, there, occupied⟩

end VirtualTapeLibrary

end ColdStore
