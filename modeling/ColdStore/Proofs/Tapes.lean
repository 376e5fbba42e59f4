import ColdStore.Proofs.DriveLeases

/-! Tapes in the library: where they are, and that bundles are found by their numbers. -/

namespace ColdStore

open Rust Process Relation

namespace VirtualTapeLibrary

/-! Moves: a tape that cannot be put down is lost. -/

/-- A move that succeeds moves one tape, and a move that fails changes nothing. -/
inductive Transfer (library : VirtualTapeLibrary) (source target : ElementAddress) :
    Moved Unit → Prop where
  | moved (tape : VirtualTape) (after : VirtualTapeLibrary)
      (held : library.holds source = some tape)
      (same : after = (library.setPlace source none).setPlace target (some tape))
      (places : ∀ place, after.holds place =
        if place = target then some tape else if place = source then none
        else library.holds place) : Transfer library source target (.ok (), after)
  | refused (error : VtlError) : Transfer library source target (.error error, library)

/-- There is a place for the tape, if there is a tape that could be moved there. -/
def Fits (library : VirtualTapeLibrary) (source target : ElementAddress) : Prop :=
  library.holds source = none ∨ target = source ∨ library.Vacant target ∨
    target.kind = .importExport

/-- A place is vacant after the tape was taken from it or from another place. -/
theorem vacant_taken {library : VirtualTapeLibrary} {source target : ElementAddress}
    {tape : VirtualTape} (held : library.holds source = some tape) :
    (library.setPlace source none).Vacant target ↔ target = source ∨ library.Vacant target := by
  obtain ⟨element, found⟩ := place_of_holds held
  simp only [Vacant, place_setPlace]
  by_cases same : target = source
  · simp [same, found, Except.map]
  · simp [same]

/-- A move transfers a tape or changes nothing exactly if there is a place for the tape. -/
theorem move_transfers_iff (library : VirtualTapeLibrary) (source target : ElementAddress) :
    (Transfer library source target (library.moveMedium source target) ∧
      Transfer library source target (library.load source target) ∧
      Transfer library source target (library.unload source target)) ↔
      library.Fits source target := by
  simp only [load, unload, and_self]
  have move := library.moveMedium_move source target
  generalize library.moveMedium source target = result at move
  cases move with
  | moved tape held free =>
    have fits := (vacant_taken held).mp free
    refine ⟨fun _ => .inr (fits.imp_right .inl), fun _ => ?_⟩
    obtain ⟨element, found⟩ := place_of_holds held
    obtain ⟨there, exists_there, _⟩ := free
    refine .moved tape _ held rfl fun place => ?_
    rw [holds_setPlace exists_there, holds_setPlace found]
  | refused error idle =>
    refine ⟨fun _ => ?_, fun _ => .refused error⟩
    exact idle.elim .inl fun outside => .inr (.inr (.inr outside))
  | lost tape error held reachable taken =>
    refine ⟨fun transfer => ?_, fun fits => absurd fits ?_⟩
    · -- The tape was in its place before, and nothing is there now.
      exfalso
      obtain ⟨element, found⟩ := place_of_holds held
      have gone := holds_setPlace found source none
      rw [if_pos rfl] at gone
      generalize after : library.setPlace source none = left at transfer gone
      cases transfer
      rw [held] at gone
      cases gone
    · rw [vacant_taken held, not_or] at taken
      rintro (bare | same | vacant | outside)
      · rw [held] at bare
        cases bare
      · exact taken.1 same
      · exact taken.2 vacant
      · exact reachable outside

/-- A library whose two slots both hold a tape. -/
def twoTapes : VirtualTapeLibrary where
  slots := [{ address := ⟨.slot, 1⟩, tape := some { barcode := "TAPE-1" } },
    { address := ⟨.slot, 2⟩, tape := some { barcode := "TAPE-2" } }]
  drives := []

/-- A tape that is moved into an occupied slot is in no place any more. -/
theorem move_loses_tape :
    twoTapes.moveMedium ⟨.slot, 1⟩ ⟨.slot, 2⟩ = (.error (.slotOccupied 2),
      { twoTapes with
        slots := [{ address := ⟨.slot, 1⟩, tape := none },
          { address := ⟨.slot, 2⟩, tape := some { barcode := "TAPE-2" } }] }) := by
  decide

/-! Calls: no tape is ever in two places. -/

variable {known : String → Prop} {library : VirtualTapeLibrary}

/-- However a tape is used or moved, it does not get into a second place. -/
theorem Stocked.uses {after : VirtualTapeLibrary} (uses : library.Uses after)
    (stocked : library.Stocked known) : after.Stocked known := by
  cases uses with
  | @worked address tape _ held same =>
    have here := named_of_holds held
    obtain ⟨element, found⟩ := place_of_holds held
    refine stocked.setPlace found ?_
    rintro _ ⟨⟩
    exact same ▸ ⟨stocked.known here, fun other => stocked.single here⟩
  | moved move => exact stocked.move move

end VirtualTapeLibrary

open Scheduler VirtualTapeLibrary in
/--
No tape is ever in two places, and there is no tape that nobody has brought in.

Whatever calls are made and fail, if none brings a tape in while the library holds one of its name.
-/
theorem tape_in_one_place {slotCount driveCount : Nat} (calls : List DriveCall)
    (fresh : ∀ before slotId tapeId after, calls = before ++ .insertTape slotId tapeId :: after →
      ∀ place, (before.foldl DriveCall.leaves (.new slotCount driveCount)).library.named place ≠
        some tapeId) : Stocked (fun barcode => ∃ slotId, .insertTape slotId barcode ∈ calls)
      (calls.foldl DriveCall.leaves (.new slotCount driveCount)).library := by
  induction calls using List.reverseRecOn with
  | nil =>
    have none {place barcode} : (VirtualTapeLibrary.new slotCount driveCount).named place ≠
        some barcode := by simp [named, SimulatorState.holds_new]
    exact ⟨fun held => absurd held none, fun held => absurd held none⟩
  | append_singleton calls call ih =>
    have earlier := ih fun before slotId tapeId after split =>
      fresh before slotId tapeId (after ++ [call]) (by simp [split])
    rw [List.foldl_append, List.foldl_cons, List.foldl_nil]
    generalize left : calls.foldl DriveCall.leaves _ = s at earlier
    -- What was known before the call is known now.
    let known (barcode : String) := ∃ slotId, .insertTape slotId barcode ∈ calls ++ [call]
    have stocked : s.library.Stocked known :=
      ⟨fun held => (earlier.known held).imp fun _ => List.mem_append_left _, earlier.single⟩
    have effect := leaves_effect s call
    generalize call.leaves s = after at effect
    cases effect with
    | handled handles => exact kept_along _ .uses handles.2 stocked
    | leased | returned => exact stocked
    | inserted slotId tapeId slot element sent there =>
      refine stocked.setPlace there ?_
      rintro _ ⟨⟩
      refine ⟨⟨slotId, by simp [sent]⟩, fun other held => ?_⟩
      exact absurd (left ▸ held) (fresh calls slotId tapeId [] (by rw [sent]) other)

open Scheduler VirtualTapeLibrary in
/-- A tape that was brought in and loaded is in the drive and nowhere else. -/
theorem tape_in_one_place_loaded :
    let calls := [.insertTape "slot-1" "TAPE-1", .asked (.loadTape "TAPE-1" "drive-0" none)]
    let library := (calls.foldl DriveCall.leaves (.new 1 1)).library
    library.named ⟨.drive, 0⟩ = some "TAPE-1" ∧
      ∀ place, library.named place = some "TAPE-1" → place = ⟨.drive, 0⟩ := by
  intro calls library
  have there : library.named ⟨.drive, 0⟩ = some "TAPE-1" := by decide +kernel
  refine ⟨there, fun place => (tape_in_one_place calls ?_).single there⟩
  intro before slotId tapeId after split place
  simp [calls, List.cons_eq_append_iff] at split
  obtain ⟨rfl, _⟩ := split
  simp [named, SimulatorState.new, SimulatorState.holds_new]

namespace SimulatorState

/-! Filemarks: the counter of a drive is the count of a tape that never left it. -/

/--
Counters show the filemarks of the loaded tapes, and bundles are read back by the number they got.

A tape is loaded only into a drive that has written to no other tape, if no other drive has written to
it, and names of tapes are not given twice.
A bundle may be read in any drive that holds its tape, whatever has been written behind it.
-/
theorem filemarks_counted {slotCount driveCount : Nat} {log : TapeLog}
    (reached : ReflTransGen (TapeLog.Performs TapeLog.KeepsPairs)
      ⟨new slotCount driveCount, []⟩ log) :
    (∀ index tape, log.state.library.Loaded ⟨.drive, index⟩ tape → tape.filemarks < 2 ^ 32 →
      log.state.nextFilemark.getD index 0 = tape.filemarks) ∧
    (∀ driveId address tape data, log.state.HoldsTape driveId address tape →
      tape.filemarks < 2 ^ 32 → data.length ≤ usizeMax → ∃ start stop after written,
        log.state.writeBundle driveId data = (.ok (start, stop), after) ∧
        after.HoldsTape driveId address written ∧
        ∀ (other : SimulatorState) (otherId : String) (place : ElementAddress) (read : VirtualTape),
          other.HoldsTape otherId place read → written.records <+: read.records →
            (other.readBundle otherId start 0).1 = .ok data ∧
            (other.readBundle otherId start data.length).1 = .ok data) := by
  have matched : log.Matched :=
    kept_along TapeLog.Matched (fun performs matched => matched.performs performs) reached
      (TapeLog.matched_new slotCount driveCount)
  have shown : ∀ index tape, log.state.library.Loaded ⟨.drive, index⟩ tape →
      tape.filemarks < 2 ^ 32 → log.state.nextFilemark.getD index 0 = tape.filemarks := by
    intro index tape loaded few
    rw [matched.shown ((VirtualTapeLibrary.loaded_iff_holds rfl).mp loaded), Nat.mod_eq_of_lt few]
  refine ⟨shown, fun driveId address tape data holds few small => ?_⟩
  obtain ⟨kind, index⟩ := address
  obtain rfl : kind = .drive := kind_of_parseDriveId holds.parsed
  have held := (VirtualTapeLibrary.loaded_iff_holds rfl).mp holds.loaded
  obtain ⟨bundles, appended, _⟩ := matched.appended _ _ held
  have start := shown index tape holds.loaded few
  rw [appended.filemarks_eq] at start
  refine ⟨_, _, _, _, writeBundle_holds holds data, ⟨holds.parsed, (holds.withTape _).loaded⟩, ?_⟩
  intro other otherId place read reads behind
  -- The records open with the bundles that were there and the one that was written.
  obtain ⟨rest, records⟩ := behind
  have opens : read.records = bundleRecords bundles ++ .data data :: .filemark :: rest := by
    rw [← records, (appended.append data).records, bundleRecords_append]
    simp
  rw [start]
  obtain ⟨_, _, _, whole⟩ := readBundle_behind reads opens small (.inr rfl)
  obtain ⟨_, _, _, exact_length⟩ := readBundle_behind reads opens small (.inl rfl)
  rw [whole, exact_length]
  exact ⟨rfl, rfl⟩

/-- A tape that has got a bundle is taken out of its drive and loaded again. -/
def loadedAgain : List TapeOperation :=
  [.insertTape "slot-1" "TAPE-1", .loadTape "TAPE-1" "drive-0" none, .writeBundle "drive-0" [1],
    .unloadTape "drive-0" none, .loadTape "TAPE-1" "drive-0" none]

/-- The second bundle on a tape is number one. -/
theorem filemarks_counted_again :
    let log := loadedAgain.foldl TapeLog.perform ⟨new 1 1, []⟩
    log.written = [(0, "TAPE-1")] ∧ (log.state.writeBundle "drive-0" [7]).1 = .ok (1, 2) ∧
      ∃ tape, log.state.library.Loaded ⟨.drive, 0⟩ tape ∧ tape.filemarks = 1 ∧
        log.state.nextFilemark.getD 0 0 = tape.filemarks := by
  intro log
  have step : ∀ (log : TapeLog) call, log.KeepsPairs call →
      TapeLog.Performs TapeLog.KeepsPairs log (log.perform call) :=
    fun _ call keeps => ⟨call, keeps, rfl⟩
  have once : ((loadedAgain.take 4).foldl TapeLog.perform ⟨new 1 1, []⟩).written =
    [(0, "TAPE-1")] := by decide
  have inserts : TapeLog.KeepsPairs ⟨new 1 1, []⟩ (.insertTape "slot-1" "TAPE-1") := by
    refine ⟨fun place => ?_, fun write mem => (List.not_mem_nil mem).elim⟩
    simp [VirtualTapeLibrary.named, new, holds_new]
  have reached : ReflTransGen (TapeLog.Performs TapeLog.KeepsPairs) ⟨new 1 1, []⟩ log := by
    refine ((((ReflTransGen.single (step _ _ inserts)).tail (step _ _ ?_)).tail
      (step _ (.writeBundle "drive-0" [1]) trivial)).tail
      (step _ (.unloadTape "drive-0" none) trivial)).tail
      (step _ (.loadTape "TAPE-1" "drive-0" none) ?_)
    · exact fun _ _ write mem => (List.not_mem_nil mem).elim
    · -- The drive has written to this tape only, and no other drive has.
      intro drive parsed write mem
      have zero : parseDriveId "drive-0" = .ok ⟨.drive, 0⟩ := by decide
      rw [zero] at parsed
      cases parsed
      change write ∈ ((loadedAgain.take 4).foldl TapeLog.perform ⟨new 1 1, []⟩).written at mem
      rw [once, List.mem_singleton] at mem
      simp [mem]
  have held : log.state.library.holds ⟨.drive, 0⟩ =
      some { barcode := "TAPE-1", records := [.data [1], .filemark], cursor := ⟨2, 0⟩ } := by decide
  have loaded := (VirtualTapeLibrary.loaded_iff_holds rfl).mpr held
  exact ⟨once, by decide, _, loaded, by decide, (filemarks_counted reached).1 0 _ loaded (by decide)⟩

/-- A tape that is loaded into a drive that has written another one. -/
def loadedSecond : SimulatorState :=
  [.insertTape "slot-1" "TAPE-1", .insertTape "slot-2" "TAPE-2",
    .loadTape "TAPE-1" "drive-0" none, .writeBundle "drive-0" [1], .unloadTape "drive-0" none,
    .loadTape "TAPE-2" "drive-0" none].foldl perform (new 2 1)

/-- The counter of the drive goes on, and the bundle is not found by the number it gets. -/
theorem filemarks_miscounted :
    loadedSecond.library.holds ⟨.drive, 0⟩ = some { barcode := "TAPE-2" } ∧
      loadedSecond.nextFilemark = [1] ∧ (loadedSecond.writeBundle "drive-0" [7]).1 = .ok (1, 2) ∧
      ((loadedSecond.writeBundle "drive-0" [7]).2.readBundle "drive-0" 1 0).1 = .ok [] ∧
      ((loadedSecond.writeBundle "drive-0" [7]).2.readBundle "drive-0" 0 0).1 = .ok [7] := by
  decide

end SimulatorState

end ColdStore
