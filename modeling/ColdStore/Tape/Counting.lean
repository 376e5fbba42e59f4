import ColdStore.Process.Lifetime
import ColdStore.Tape.Bundles
import ColdStore.Tape.Moves

/-! Filemarks on tapes and filemark counters of drives, over the calls that only add bundles. -/

namespace ColdStore

open Rust

/-- The calls that bring tapes in, move them and write to them. -/
inductive TapeOperation where
  | insertTape (slotId tapeId : String)
  | loadTape (tapeId driveId : String) (slotId : Option String)
  | unloadTape (driveId : String) (targetSlotId : Option String)
  | writeBundle (driveId : String) (data : Bytes)

/-- The simulator after a call, whether it failed or not. -/
def SimulatorState.perform (s : SimulatorState) : TapeOperation → SimulatorState
  | .insertTape slotId tapeId => (s.insertTape slotId tapeId).2
  | .loadTape tapeId driveId slotId => (s.loadTape tapeId driveId slotId).2
  | .unloadTape driveId targetSlotId => (s.unloadTape driveId targetSlotId).2
  | .writeBundle driveId data => (s.writeBundle driveId data).2

/-- The filemarks on a tape. -/
def VirtualTape.filemarks (tape : VirtualTape) : Nat :=
  (tape.records.filter fun record => record == .filemark).length

/-- A tape holds the given bundles and nothing else, and its head is at the end. -/
structure VirtualTape.Appended (tape : VirtualTape) (bundles : List Bytes) : Prop where
  records : tape.records = bundleRecords bundles
  atEnd : tape.cursor.recordIndex = tape.records.length

namespace VirtualTape

variable {tape : VirtualTape} {bundles : List Bytes}

theorem appended_blank (barcode : String) : Appended { barcode } [] := ⟨rfl, rfl⟩

theorem filemarks_bundleRecords (bundles : List Bytes) :
    ((bundleRecords bundles).filter fun record => record == .filemark).length = bundles.length := by
  induction bundles with
  | nil => rfl
  | cons bytes rest ih => simpa [bundleRecords_cons, List.filter_cons] using ih

/-- There is one filemark behind each bundle. -/
theorem Appended.filemarks_eq (appended : tape.Appended bundles) :
    tape.filemarks = bundles.length := by
  rw [filemarks, appended.records, filemarks_bundleRecords]

/-- A bundle that is written comes behind the others. -/
theorem Appended.append (appended : tape.Appended bundles) (data : Bytes) :
    ((tape.appendData data).appendFilemark).Appended (bundles ++ [data]) :=
  ⟨append_bundle appended.records appended.atEnd data, rfl⟩

end VirtualTape

namespace VirtualTapeLibrary

@[simp] theorem setPlace_drives_length (library : VirtualTapeLibrary) (address : ElementAddress)
    (tape : Option VirtualTape) :
    (library.setPlace address tape).drives.length = library.drives.length := by
  simp only [setPlace, setSlot, setDrive]
  split <;> simp

/-- Every slot is addressed as one. -/
def Shelved (library : VirtualTapeLibrary) : Prop :=
  ∀ element ∈ library.slots, element.address.kind = .slot

variable {library : VirtualTapeLibrary}

theorem Shelved.setPlace (shelved : library.Shelved) (address : ElementAddress)
    (tape : Option VirtualTape) : (library.setPlace address tape).Shelved := by
  intro element mem
  simp only [VirtualTapeLibrary.setPlace, setSlot, setDrive] at mem
  split at mem
  · obtain same | ⟨old, there, rfl⟩ := mem_modifyFirst mem
    · exact shelved element same
    · exact shelved old there
  · exact shelved element mem
  · exact shelved element mem

/-- A drive that exists has a number below the number of drives. -/
theorem index_lt_of_drive {address : ElementAddress} {element : Element}
    (found : library.drive address = .ok element) :
    address.kind = .drive ∧ address.index < library.drives.length := by
  simp only [drive, ensureDrive, bind_eq_ok, ensure_eq_ok, beq_iff_eq, decide_eq_true_eq] at found
  obtain ⟨_, ⟨_, kind, inside⟩, _⟩ := found
  exact ⟨kind, inside⟩

/-- A slot that is found holds what its place holds. -/
theorem holds_of_slot {address : ElementAddress} {element : Element}
    (found : library.slot address = .ok element) : library.holds address = element.tape := by
  have kind : address.kind = .slot := by
    simp only [slot, ensureSlot, bind_eq_ok, ensure_eq_ok, beq_iff_eq] at found
    obtain ⟨_, ⟨_, kind, _⟩, _⟩ := found
    exact kind
  simp only [holds, place, kind, found]

/-- The name of the tape in a place. -/
def named (library : VirtualTapeLibrary) (place : ElementAddress) : Option String :=
  (library.holds place).map VirtualTape.barcode

theorem named_of_holds {place : ElementAddress} {tape : VirtualTape}
    (held : library.holds place = some tape) : library.named place = some tape.barcode := by
  rw [named, held, Option.map_some]

/-- Every tape is known by its name, and no two places hold tapes of one name. -/
structure Stocked (known : String → Prop) (library : VirtualTapeLibrary) : Prop where
  known : ∀ {place barcode}, library.named place = some barcode → known barcode
  single : ∀ {place other barcode}, library.named place = some barcode →
    library.named other = some barcode → other = place

variable {known : String → Prop} {address : ElementAddress}

theorem named_setPlace {element : Element} (found : library.place address = .ok element)
    (tape : Option VirtualTape) (other : ElementAddress) :
    (library.setPlace address tape).named other =
      if other = address then tape.map VirtualTape.barcode else library.named other := by
  rw [named, holds_setPlace found]
  split <;> rfl

/-- A tape may appear in a place if it is known, and nowhere else. -/
theorem Stocked.setPlace (stocked : library.Stocked known) {element : Element}
    (found : library.place address = .ok element) {tape : Option VirtualTape}
    (fits : ∀ barcode, tape.map VirtualTape.barcode = some barcode → known barcode ∧
      ∀ other, library.named other = some barcode → other = address) :
    (library.setPlace address tape).Stocked known where
  known {place barcode} := by
    rw [named_setPlace found]
    grind [stocked.known]
  single {place other barcode} := by
    rw [named_setPlace found, named_setPlace found]
    grind [stocked.single]

/-- A tape that was taken from the one place that held it is nowhere. -/
theorem Stocked.taken (stocked : library.Stocked known) {tape : VirtualTape}
    (held : library.holds address = some tape) (other : ElementAddress) :
    (library.setPlace address none).named other ≠ some tape.barcode := by
  obtain ⟨element, found⟩ := place_of_holds held
  rw [named_setPlace found]
  split
  · simp
  · rename_i ne
    exact fun again => ne (stocked.single (named_of_holds held) again)

/-- A tape that is moved does not get into a second place. -/
theorem Stocked.move (stocked : library.Stocked known) {source target : ElementAddress}
    {result : Moved Unit} (move : library.Move source target result) : result.2.Stocked known := by
  cases move with
  | refused => exact stocked
  | lost tape error held =>
    obtain ⟨element, found⟩ := place_of_holds held
    exact stocked.setPlace found (by rintro _ ⟨⟩)
  | moved tape held free =>
    obtain ⟨element, found⟩ := place_of_holds held
    obtain ⟨there, exists_there, _⟩ := free
    have taken : (library.setPlace source none).Stocked known :=
      stocked.setPlace found (by rintro _ ⟨⟩)
    refine taken.setPlace exists_there ?_
    rintro _ ⟨⟩
    exact ⟨stocked.known (named_of_holds held), fun other again =>
      absurd again (stocked.taken held other)⟩

end VirtualTapeLibrary

/-- A simulator, and the bundles it has written: in which drive, and to which tape. -/
structure TapeLog where
  state : SimulatorState
  written : List (Nat × String) := []

/-- The bundle that is written in a drive, if there is a tape in it. -/
def SimulatorState.writesIn (s : SimulatorState) : Except Status ElementAddress →
    List (Nat × String)
  | .ok drive => ((s.library.named drive).map fun barcode => (drive.index, barcode)).toList
  | .error _ => []

/-- The bundle that a call is about to write. -/
def TapeOperation.writes (s : SimulatorState) : TapeOperation → List (Nat × String)
  | .writeBundle driveId _ => s.writesIn (parseDriveId driveId)
  | .insertTape _ _ | .loadTape _ _ _ | .unloadTape _ _ => []

namespace TapeLog

variable (log : TapeLog)

/-- The log after a call, whether it failed or not. -/
def perform (call : TapeOperation) : TapeLog :=
  ⟨log.state.perform call, call.writes log.state ++ log.written⟩

/-- One allowed call. -/
def Performs (allowed : TapeLog → TapeOperation → Prop) (before after : TapeLog) : Prop :=
  ∃ call, allowed before call ∧ before.perform call = after

/-- How many bundles a drive has written, to whatever tape. -/
def writesBy (index : Nat) : Nat := log.written.countP fun write => write.1 = index

/-- How many bundles were written to a tape, in whatever drive. -/
def writesTo (barcode : String) : Nat := log.written.countP fun write => write.2 = barcode

/-- A drive has written to no other tape, and no other drive to the tape. -/
def Pairs (index : Nat) (barcode : String) : Prop :=
  ∀ write ∈ log.written, write.1 = index ↔ write.2 = barcode

/--
A tape is loaded only into a drive that it shares its history with.

A tape that is brought in has a name that no tape has and no tape with a bundle had.
-/
def KeepsPairs : TapeOperation → Prop
  | .insertTape _ tapeId =>
    (∀ place, log.state.library.named place ≠ some tapeId) ∧ ∀ write ∈ log.written, write.2 ≠ tapeId
  | .loadTape tapeId driveId _ => ∀ drive, parseDriveId driveId = .ok drive →
    log.Pairs drive.index tapeId
  | .unloadTape _ _ | .writeBundle _ _ => True

/-- Bundles are counted by their drives and on their tapes, which are written at the ends only. -/
structure Matched : Prop where
  shelved : log.state.library.Shelved
  counters : log.state.nextFilemark.length = log.state.library.drives.length
  stocked : log.state.library.Stocked fun _ => True
  appended : ∀ address tape, log.state.library.holds address = some tape →
    ∃ bundles, tape.Appended bundles ∧ bundles.length = log.writesTo tape.barcode
  counted : ∀ index, log.state.nextFilemark.getD index 0 = log.writesBy index % 2 ^ 32
  paired : ∀ index barcode, log.state.library.named ⟨.drive, index⟩ = some barcode →
    log.Pairs index barcode

end TapeLog

namespace SimulatorState

/-- A library without tapes holds none. -/
theorem holds_new (slotCount driveCount : Nat) (address : ElementAddress) :
    (VirtualTapeLibrary.new slotCount driveCount).holds address = none := by
  simp only [VirtualTapeLibrary.holds]
  split
  · rename_i element found
    have listed : element ∈ (VirtualTapeLibrary.new slotCount driveCount).slots ∨
        element ∈ (VirtualTapeLibrary.new slotCount driveCount).drives := by
      simp only [VirtualTapeLibrary.place] at found
      split at found
      · simp only [VirtualTapeLibrary.slot, bind_eq_ok, okOr_eq_ok] at found
        obtain ⟨_, _, found⟩ := found
        exact .inl (List.mem_of_find?_eq_some found)
      · simp only [VirtualTapeLibrary.drive, bind_eq_ok, okOr_eq_ok] at found
        obtain ⟨_, _, found⟩ := found
        exact .inr (List.mem_of_find?_eq_some found)
      · cases found
    simp only [VirtualTapeLibrary.new, List.mem_map] at listed
    obtain ⟨index, _, rfl⟩ | ⟨index, _, rfl⟩ := listed <;> rfl
  · rfl

variable {s : SimulatorState} {address : ElementAddress}

/-! What the calls come down to. -/

/-- What holds of a failure that changes nothing and of the rest holds of a guarded call. -/
theorem given_of {α β : Type} {check : Except Status α} {rest : α → Served β}
    {property : Served β → Prop} (failed : ∀ status, property (.error status, s))
    (goes : ∀ value, check = .ok value → property (rest value)) :
    property (s.given check rest) := by
  cases checked : check with
  | ok value => exact goes value checked
  | error status => exact failed status

theorem kind_of_parseDriveId {driveId : String} (parsed : parseDriveId driveId = .ok address) :
    address.kind = .drive := by
  simp only [parseDriveId, bind_eq_ok, okOr_eq_ok] at parsed
  obtain ⟨index, _, made⟩ := parsed
  cases made
  rfl

theorem kind_of_parseSlotId {slotId : String} (parsed : parseSlotId slotId = .ok address) :
    address.kind = .slot := by
  simp only [parseSlotId, bind_eq_ok, okOr_eq_ok] at parsed
  obtain ⟨index, _, _, _, made⟩ := parsed
  cases made
  rfl

theorem mapVtl_eq_ok {α : Type} {answer : Except VtlError α} {value : α} :
    mapVtl answer = .ok value ↔ answer = .ok value := by
  cases answer <;> simp [mapVtl, Except.mapError]

/-- A call that moves a tape between two places, or fails and changes nothing. -/
inductive Moving (s : SimulatorState) (between : ElementAddress → ElementAddress → Prop) :
    Served Unit → Prop where
  | moved (source target : ElementAddress) (admitted : between source target) :
      Moving s between (s.ran (s.library.moveMedium source target))
  | failed (status : Status) : Moving s between (.error status, s)

/-- Loading moves the named tape into the named drive. -/
theorem loadTape_moving (s : SimulatorState) (tapeId driveId : String) (slotId : Option String) :
    s.Moving (fun slot drive => parseDriveId driveId = .ok drive ∧
      ∀ tape, s.library.holds slot = some tape → tape.barcode = tapeId)
      (s.loadTape tapeId driveId slotId) := by
  refine given_of .failed fun drive parsed => given_of .failed fun _ _ => given_of .failed
    fun slot _ => given_of .failed fun element found => given_of .failed fun _ barcode =>
      .moved slot drive ⟨parsed, fun tape held => ?_⟩
  simp only [mapVtl_eq_ok, ensure_eq_ok, beq_iff_eq] at found barcode
  rw [VirtualTapeLibrary.holds_of_slot found] at held
  rw [Element.barcode, held] at barcode
  exact Option.some.inj barcode

/-- Unloading moves a tape into a slot. -/
theorem unloadTape_moving (shelved : s.library.Shelved) (driveId : String)
    (targetSlotId : Option String) :
    s.Moving (fun _ slot => slot.kind = .slot) (s.unloadTape driveId targetSlotId) := by
  refine given_of .failed fun drive parsed => given_of .failed fun _ _ =>
    given_of .failed fun slot chosen => .moved drive slot ?_
  cases targetSlotId with
  | some slotId => exact kind_of_parseSlotId chosen
  | none =>
    simp only [findEmptySlot, okOr_eq_ok, Option.map_eq_some_iff] at chosen
    obtain ⟨element, found, rfl⟩ := chosen
    exact shelved element (List.mem_of_find?_eq_some found)

/-- A blank tape is brought into a slot, or nothing changes. -/
theorem insertTape_cases (s : SimulatorState) (slotId tapeId : String) :
    (s.insertTape slotId tapeId).2 = s ∨ ∃ slot element, slot.kind = .slot ∧
      s.library.place slot = .ok element ∧ (s.insertTape slotId tapeId).2 =
        { s with library := s.library.setPlace slot (some { barcode := tapeId }) } := by
  unfold SimulatorState.insertTape
  cases parsed : parseSlotId slotId with
  | error status => exact .inl rfl
  | ok slot =>
    have kind := kind_of_parseSlotId parsed
    simp only [given, ran, VirtualTapeLibrary.insertTape, VirtualTapeLibrary.putIntoSlot]
    cases found : s.library.slot slot with
    | error error => exact .inl rfl
    | ok element =>
      dsimp only
      split
      · exact .inl rfl
      · refine .inr ⟨slot, element, kind, ?_, ?_⟩
        · simp only [VirtualTapeLibrary.place, kind, found]
        · simp only [VirtualTapeLibrary.setPlace, kind]

end SimulatorState

namespace TapeLog

/-- A simulator without tapes has written nothing. -/
theorem matched_new (slotCount driveCount : Nat) : Matched ⟨.new slotCount driveCount, []⟩ where
  shelved element mem := by
    simp only [SimulatorState.new, VirtualTapeLibrary.new, List.mem_map] at mem
    obtain ⟨index, _, rfl⟩ := mem
    rfl
  counters := by simp [SimulatorState.new, VirtualTapeLibrary.new]
  stocked := ⟨fun _ => trivial, fun held => by
    simp [VirtualTapeLibrary.named, SimulatorState.new, SimulatorState.holds_new] at held⟩
  appended address tape held := by
    rw [SimulatorState.new, SimulatorState.holds_new] at held
    cases held
  counted index := by
    simp only [SimulatorState.new, writesBy, List.countP_nil, List.getD_eq_getElem?_getD,
      List.getElem?_replicate]
    split <;> rfl
  paired index barcode _ write mem := by cases mem

variable {log : TapeLog} {address : ElementAddress}

/-- The log with another tape in a place. -/
def setPlace (log : TapeLog) (address : ElementAddress) (tape : Option VirtualTape) : TapeLog :=
  { log with state := { log.state with library := log.state.library.setPlace address tape } }

/-- A tape may appear in a place if its bundles are counted, and it is paired with its drive. -/
theorem Matched.setPlace (matched : log.Matched) {element : Element}
    (found : log.state.library.place address = .ok element) {tape : Option VirtualTape}
    (nowhere : ∀ put, tape = some put → ∀ other, log.state.library.named other ≠ some put.barcode)
    (fits : ∀ put, tape = some put →
      (∃ bundles, put.Appended bundles ∧ bundles.length = log.writesTo put.barcode) ∧
      (address.kind = .drive → log.Pairs address.index put.barcode)) :
    (log.setPlace address tape).Matched where
  shelved := matched.shelved.setPlace address tape
  counters := by simpa [TapeLog.setPlace] using matched.counters
  stocked := by
    refine matched.stocked.setPlace found fun barcode given => ⟨trivial, fun other held => ?_⟩
    obtain ⟨put, rfl, rfl⟩ := Option.map_eq_some_iff.mp given
    exact absurd held (nowhere put rfl other)
  appended other put held := by
    replace held := (VirtualTapeLibrary.holds_setPlace found other _).symm.trans held
    split at held
    · exact (fits put held).1
    · exact matched.appended other put held
  counted := matched.counted
  paired index barcode held := by
    replace held := (VirtualTapeLibrary.named_setPlace found _ _).symm.trans held
    split at held
    · rename_i same
      obtain ⟨put, rfl, rfl⟩ := Option.map_eq_some_iff.mp held
      have fit := (fits put rfl).2
      rw [← same] at fit
      exact fit rfl
    · exact matched.paired index barcode held

/-- What a move leaves is matched, if the tape is paired with the drive it arrives in. -/
theorem Matched.move (matched : log.Matched) {source target : ElementAddress} {result : Moved Unit}
    (move : log.state.library.Move source target result)
    (fits : ∀ tape, log.state.library.holds source = some tape → target.kind = .drive →
      log.Pairs target.index tape.barcode) :
    Matched { log with state := { log.state with library := result.2 } } := by
  cases move with
  | refused error idle => exact matched
  | lost tape error held reachable taken =>
    obtain ⟨element, found⟩ := VirtualTapeLibrary.place_of_holds held
    exact matched.setPlace found (fun put none => nomatch none) fun put none => nomatch none
  | moved tape held free =>
    obtain ⟨element, found⟩ := VirtualTapeLibrary.place_of_holds held
    obtain ⟨there, exists_there, _⟩ := free
    have taken : (log.setPlace source none).Matched :=
      matched.setPlace found (fun put none => nomatch none) fun put none => nomatch none
    refine taken.setPlace exists_there ?_ ?_
    · rintro put ⟨⟩
      exact matched.stocked.taken held
    · rintro put ⟨⟩
      exact ⟨matched.appended source tape held, fits tape held⟩

/-- A call that moves a tape leaves everything matched, or fails and changes nothing. -/
theorem Matched.moving (matched : log.Matched) {between : ElementAddress → ElementAddress → Prop}
    {served : Served Unit} (moving : log.state.Moving between served)
    (fits : ∀ source target tape, between source target →
      log.state.library.holds source = some tape → target.kind = .drive →
        log.Pairs target.index tape.barcode) : Matched { log with state := served.2 } := by
  cases moving with
  | failed status => exact matched
  | moved source target admitted =>
    exact matched.move (log.state.library.moveMedium_move source target) fun tape =>
      fits source target tape admitted

/-- A blank tape that is brought in has a name that nothing was written to. -/
theorem Matched.insertTape (matched : log.Matched) {slotId tapeId : String}
    (fresh : log.KeepsPairs (.insertTape slotId tapeId)) :
    Matched { log with state := (log.state.insertTape slotId tapeId).2 } := by
  obtain same | ⟨slot, element, kind, there, same⟩ := log.state.insertTape_cases slotId tapeId
  · rw [same]
    exact matched
  · rw [same]
    refine matched.setPlace there ?_ ?_
    · rintro blank ⟨⟩
      exact fresh.1
    · rintro blank ⟨⟩
      refine ⟨⟨[], VirtualTape.appended_blank tapeId, ?_⟩, fun drive => by simp [kind] at drive⟩
      exact (List.countP_eq_zero.mpr fun write mem => by simpa using fresh.2 write mem).symm

/-- A bundle is counted by the drive it is written in and on the tape it is written to. -/
theorem Matched.withBundle (matched : log.Matched) {index : Nat} {tape : VirtualTape}
    (loaded : log.state.library.Loaded ⟨.drive, index⟩ tape) (data : Bytes) :
    Matched ⟨{ log.state.withTape ⟨.drive, index⟩ (tape.appendData data).appendFilemark with
      nextFilemark := log.state.nextFilemark.set index
        ((log.state.nextFilemark.getD index 0 + 1) % 2 ^ 32) },
      (index, tape.barcode) :: log.written⟩ := by
  have held := (VirtualTapeLibrary.loaded_iff_holds rfl).mp loaded
  obtain ⟨bundles, appended, marks⟩ := matched.appended _ _ held
  have here := VirtualTapeLibrary.named_of_holds held
  obtain ⟨element, found, _⟩ := loaded
  have inside := (VirtualTapeLibrary.index_lt_of_drive found).2
  have there : log.state.library.place ⟨.drive, index⟩ = .ok element := found
  -- Any other place holds a tape of another name.
  have apart : ∀ {other barcode}, log.state.library.named other = some barcode →
      other ≠ ⟨.drive, index⟩ → tape.barcode ≠ barcode := by
    rintro other _ named ne rfl
    exact ne (matched.stocked.single here named)
  refine ⟨matched.shelved.setPlace ⟨.drive, index⟩ _, ?_, ?_, fun address other holds => ?_,
    fun number => ?_, fun number barcode named => ?_⟩
  · simpa [SimulatorState.withTape, VirtualTapeLibrary.setDrive] using matched.counters
  · refine matched.stocked.setPlace there ?_
    rintro _ ⟨⟩
    exact ⟨trivial, fun other => matched.stocked.single here⟩
  · replace holds := (VirtualTapeLibrary.holds_setPlace there address _).symm.trans holds
    split at holds
    · cases holds
      refine ⟨_, appended.append data, ?_⟩
      show _ = List.countP (fun write => write.2 = tape.barcode) ((index, tape.barcode) :: log.written)
      rw [List.countP_cons_of_pos (by simp), List.length_append, marks]
      rfl
    · rename_i ne
      obtain ⟨others, kept, count⟩ := matched.appended address other holds
      refine ⟨others, kept, count.trans ?_⟩
      have named := apart (VirtualTapeLibrary.named_of_holds holds) ne
      simp [writesTo, named]
  · -- This drive has written one bundle more.
    have before := matched.counted number
    by_cases same : index = number
    · subst same
      simp only [List.getD_eq_getElem?_getD, List.getElem?_set_self (matched.counters ▸ inside)]
      simp [writesBy, ← List.getD_eq_getElem?_getD, before, Nat.add_mod]
    · simp only [List.getD_eq_getElem?_getD, List.getElem?_set_ne same]
      simpa [writesBy, same, List.getD_eq_getElem?_getD] using before
  · replace named := (VirtualTapeLibrary.named_setPlace there _ _).symm.trans named
    refine List.forall_mem_cons.mpr ?_
    split at named
    · rename_i same
      cases named
      obtain rfl : number = index := congrArg ElementAddress.index same
      exact ⟨iff_of_true rfl rfl, matched.paired number _ here⟩
    · rename_i ne
      refine ⟨iff_of_false ?_ (apart named ne), matched.paired number _ named⟩
      rintro rfl
      exact ne rfl

/-- Writing counts a bundle or changes nothing. -/
theorem Matched.writeBundle (matched : log.Matched) (driveId : String) (data : Bytes) :
    (log.perform (.writeBundle driveId data)).Matched := by
  show Matched ⟨(log.state.writeBundle driveId data).2,
    log.state.writesIn (parseDriveId driveId) ++ log.written⟩
  cases parsed : parseDriveId driveId with
  | error status =>
    have failed : (log.state.writeBundle driveId data).2 = log.state := by
      rw [SimulatorState.writeBundle, parsed]
      rfl
    rw [failed]
    exact matched
  | ok address =>
    obtain ⟨kind, index⟩ := address
    obtain rfl : kind = .drive := SimulatorState.kind_of_parseDriveId parsed
    cases held : log.state.library.holds ⟨.drive, index⟩ with
    | none =>
      have failed : (log.state.writeBundle driveId data).2 = log.state := by
        simp only [SimulatorState.writeBundle, SimulatorState.given, parsed]
        cases found : log.state.library.drive ⟨.drive, index⟩ with
        | error error => rfl
        | ok element =>
          have bare : element.tape = none := by
            simpa only [VirtualTapeLibrary.holds, VirtualTapeLibrary.place, found] using held
          simp only [mapVtl, Except.mapError, VirtualTapeLibrary.write,
            VirtualTapeLibrary.onLoadedTape, found, bare, SimulatorState.ran,
            SimulatorState.andThen]
      rw [failed, SimulatorState.writesIn, VirtualTapeLibrary.named, held]
      exact matched
    | some tape =>
      have loaded := (VirtualTapeLibrary.loaded_iff_holds rfl).mpr held
      rw [SimulatorState.writeBundle_holds ⟨parsed, loaded⟩, SimulatorState.writesIn,
        VirtualTapeLibrary.named_of_holds held]
      exact matched.withBundle loaded data

/-- One call keeps the log matched. -/
theorem Matched.performs {before after : TapeLog} (matched : before.Matched)
    (performs : Performs KeepsPairs before after) : after.Matched := by
  obtain ⟨call, keeps, rfl⟩ := performs
  cases call with
  | insertTape slotId tapeId => exact matched.insertTape keeps
  | loadTape tapeId driveId slotId =>
    refine matched.moving (before.state.loadTape_moving tapeId driveId slotId) ?_
    rintro source target tape ⟨parsed, named⟩ held _
    exact named tape held ▸ keeps target parsed
  | unloadTape driveId targetSlotId =>
    refine matched.moving (SimulatorState.unloadTape_moving matched.shelved driveId targetSlotId) ?_
    intro source target tape slot _ drive
    rw [slot] at drive
    cases drive
  | writeBundle driveId data => exact matched.writeBundle driveId data

/-- The counter of a drive shows the filemarks of the tape in it. -/
theorem Matched.shown (matched : log.Matched) {index : Nat} {tape : VirtualTape}
    (held : log.state.library.holds ⟨.drive, index⟩ = some tape) :
    log.state.nextFilemark.getD index 0 = tape.filemarks % 2 ^ 32 := by
  obtain ⟨bundles, appended, marks⟩ := matched.appended _ _ held
  have paired := matched.paired index _ (VirtualTapeLibrary.named_of_holds held)
  have same : log.writesBy index = log.writesTo tape.barcode :=
    List.countP_congr fun write mem => by simpa using paired write mem
  rw [matched.counted, appended.filemarks_eq, marks, same]

end TapeLog

end ColdStore
