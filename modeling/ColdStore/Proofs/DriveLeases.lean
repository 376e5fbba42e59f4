import ColdStore.Scheduler.System
import ColdStore.Process.Sequential
import ColdStore.Tape.DriveMarks

/-! Drives that are leased for a write or a read, and given back. -/

namespace ColdStore.Scheduler

open Rust Process Program SimulatorState

/-- Whether a call leases a drive or gives one back. -/
def TapeRequest.isLease : TapeRequest → Bool
  | .acquireDrive _ _ | .releaseDrive _ => true
  | .loadTape _ _ _ | .writeBundle _ | .readBundle _ _ _ => false

/-- Loading, writing and reading leave the marks of all drives alone. -/
theorem TapeRequest.serve_handles (req : TapeRequest) (s : SimulatorState)
    (other : req.isLease = false) : s.Handles (req.serve s) := by
  cases req with
  | acquireDrive | releaseDrive => cases other
  | loadTape tapeId driveId slotId => exact loadTape_handles s tapeId driveId slotId
  | writeBundle messages => exact writeBundleFromMessages_handles s messages
  | readBundle driveId location length =>
    exact readBundleStream_handles s driveId location length

/--
A tape service that leases drives as the simulator does.

A request for a lease may fail, before a drive is marked or after it, and what is answered to every
other call is up to the service.
-/
structure LeasesDrives {W : Type} (machine : Machine Call Reply W) (tape : W → SimulatorState) :
    Prop where
  enabled : ∀ req w, machine.enabled (.tape req) w = true
  acquires : ∀ preferred required w,
    let served : Except Status AcquireDriveResponse × W :=
      machine.serve (.tape (.acquireDrive preferred required)) w
    (served.1, tape served.2) = (tape w).acquireDrive preferred required ∨
      ∃ status, served.1 = .error status
  releases : ∀ driveId w,
    tape (machine.serve (.tape (.releaseDrive driveId)) w).2 = ((tape w).releaseDrive driveId).2
  others : ∀ req w, req.isLease = false → (tape w).SameLeases (tape (machine.serve (.tape req) w).2)

/-- The services of a deployment lease drives that way, if every call is answered. -/
theorem machine_leasesDrives (svc : CacheService) {env : Nat → Moment} (calm : Calm env) :
    LeasesDrives (machine svc env) World.tape where
  enabled _ _ := rfl
  acquires preferred required w := by
    left
    simp only [machine, serve, delivered, calm]
    rfl
  releases driveId w := by
    simp only [machine, serve, delivered, calm]
    rfl
  others req w other := by
    simp only [machine, serve, delivered, calm]
    exact (req.serve_handles _ other).sameLeases

section

variable {W : Type} (machine : Machine Call Reply W)

/-- The answer to a client that asks for a drive, and the world behind it. -/
def leaseOf (driveId : String) (w : W) : Except Status AcquireDriveResponse × W :=
  machine.serve (.tape (.acquireDrive (some driveId) none)) w

/-- A client that has leased a drive without its tape in it gets the tape loaded. -/
def LoadsTape (driveId tapeId : String) (w : W) : Prop :=
  ∀ acquired, (leaseOf machine driveId w).1 = .ok acquired →
    acquired.currentTape ≠ some tapeId →
      (machine.serve (.tape (.loadTape tapeId (AcquireDriveResponse.leased driveId acquired) none))
        (leaseOf machine driveId w).2).1 = .ok ()

/-- A client whose request for a drive fails has marked none. -/
def FailsUnmarked (tape : W → SimulatorState) (driveId : String) (w : W) : Prop :=
  ∀ status, (leaseOf machine driveId w).1 = .error status →
    (tape (leaseOf machine driveId w).2).acquired = (tape w).acquired

/-- The drive that a client has leased is free again, and so is every drive that was. -/
def Returned (tape : W → SimulatorState) (driveId : String) (w after : W) : Prop :=
  (tape after).acquired = (tape w).acquired ∧
    ∀ acquired index, (leaseOf machine driveId w).1 = .ok acquired →
      (tape w).driveIndex (AcquireDriveResponse.leased driveId acquired) = .ok index →
        (tape after).acquired.getD index false = false

/-- A client's task ends, and its drive is returned. -/
def ReturnsDrive {α : Type} (tape : W → SimulatorState) (driveId : String)
    (task : Task Status α) (w : W) : Prop :=
  ∃ result after, task.run.run machine w = some (result, after) ∧
    Returned machine tape driveId w after

end

section

variable {W : Type} {machine : Machine Call Reply W} {tape : W → SimulatorState}
  (leases : LeasesDrives machine tape) {w : W} {driveId tapeId : String}

/-- Where a client stands after it has tried to lease a drive and load a tape. -/
inductive Equipped (machine : Machine Call Reply W) (tape : W → SimulatorState)
    (driveId tapeId : String) (w : W) : Except Status String → W → Prop where
  | refused (status : Status) (answer : (leaseOf machine driveId w).1 = .error status) :
      Equipped machine tape driveId tapeId w (.error status) (leaseOf machine driveId w).2
  | unloaded (status : Status) (index : Nat) (after : W)
      (unloaded : ¬ LoadsTape machine driveId tapeId w)
      (found : (tape w).driveIndex (driveIdString index) = .ok index)
      (free : (tape w).acquired.getD index false = false)
      (same : { tape w with acquired := (tape w).acquired.set index true }.SameLeases
        (tape after)) : Equipped machine tape driveId tapeId w (.error status) after
  | leased (index : Nat) (currentTape : Option String) (after : W)
      (loads : LoadsTape machine driveId tapeId w)
      (answer : (leaseOf machine driveId w).1 = .ok ⟨driveIdString index, currentTape⟩)
      (found : (tape w).driveIndex (driveIdString index) = .ok index)
      (free : (tape w).acquired.getD index false = false)
      (same : { tape w with acquired := (tape w).acquired.set index true }.SameLeases
        (tape after)) : Equipped machine tape driveId tapeId w (.ok (driveIdString index)) after

include leases

/-- A client that gets an answer has leased a free drive. -/
theorem leaseOf_ok {acquired : AcquireDriveResponse}
    (ok : (leaseOf machine driveId w).1 = .ok acquired) :
    ∃ index currentTape, acquired = ⟨driveIdString index, currentTape⟩ ∧
      (tape w).driveIndex (driveIdString index) = .ok index ∧
      (tape w).acquired.getD index false = false ∧
      tape (leaseOf machine driveId w).2 =
        { tape w with acquired := (tape w).acquired.set index true } := by
  obtain served | ⟨status, failed⟩ := leases.acquires (some driveId) none w
  · -- The drive service has answered, so it has marked the drive that it names.
    have grants := acquireDrive_grants (tape w) (some driveId) none
    rw [← served] at grants
    change (tape w).Grants _ _ ((leaseOf machine driveId w).1,
      tape (leaseOf machine driveId w).2) at grants
    rw [ok] at grants
    generalize tape (leaseOf machine driveId w).2 = after at grants
    cases grants with
    | granted index currentTape chosen _ free =>
      exact ⟨index, currentTape, rfl, driveIndex_driveIdString chosen, free, rfl⟩
  · cases ok.symm.trans failed

/-- A client fails without a drive, or with one into which its tape is not loaded. -/
theorem acquireAndLoadTape_equips :
    (acquireAndLoadTape driveId tapeId).run.Achieves machine
      (Equipped machine tape driveId tapeId w) w := by
  have asked : (askTape (.acquireDrive (some driveId) none)).run.Achieves machine
      (fun result after => result = (leaseOf machine driveId w).1 ∧
        after = (leaseOf machine driveId w).2) w :=
    achieves_perform (leases.enabled _ _) ⟨rfl, rfl⟩
  refine achieves_try asked (fun (acquired : AcquireDriveResponse) between met => ?_)
    fun status after met => ?_
  · obtain ⟨ok, rfl⟩ := met
    obtain ⟨index, currentTape, rfl, found, free, leased⟩ := leaseOf_ok leases ok.symm
    have name : AcquireDriveResponse.leased driveId ⟨driveIdString index, currentTape⟩ =
        driveIdString index := if_neg (driveIdString_ne index)
    -- A tape is brought in unless it is there, and the lease stays as it is meanwhile.
    have fetched : (loadUnlessLoaded (driveIdString index) tapeId currentTape).run.Achieves
        machine (fun result after => (LoadsTape machine driveId tapeId w ↔ result = .ok ()) ∧
          (tape (leaseOf machine driveId w).2).SameLeases (tape after))
        (leaseOf machine driveId w).2 := by
      have needs : LoadsTape machine driveId tapeId w ↔ (currentTape ≠ some tapeId →
          (machine.serve (.tape (.loadTape tapeId (driveIdString index) none))
            (leaseOf machine driveId w).2).1 = .ok ()) := by
        rw [← name]
        refine ⟨fun loads => loads _ ok.symm, fun loads acquired answer => ?_⟩
        obtain rfl := Except.ok.inj (ok.trans answer)
        exact loads
      rw [needs]
      unfold loadUnlessLoaded
      split
      · rename_i elsewhere
        exact achieves_perform (leases.enabled _ _)
          ⟨forall_prop_of_true elsewhere, leases.others _ _ rfl⟩
      · rename_i there
        exact ⟨iff_of_true (fun elsewhere => absurd elsewhere there) rfl, .refl _⟩
    rw [name]
    refine achieves_try fetched (fun _ after met => ?_) fun status after met => ?_
    · exact .leased index currentTape after (met.1.mpr rfl) ok.symm found free (leased ▸ met.2)
    · exact .unloaded status index after (fun loads => nomatch met.1.mp loads) found free
        (leased ▸ met.2)
  · obtain ⟨failed, rfl⟩ := met
    exact .refused status failed.symm

/--
What is done with a leased drive ends with the drive given back, whatever the answers are.

The drive is not given back exactly if its tape cannot be loaded, or if it was marked by a request
that fails.
-/
theorem returnsDrive_iff {α : Type} (req : String → TapeRequest)
    (finish : (leased : String) → Except Status (req leased).Value → Except Status α)
    (other : ∀ leased, (req leased).isLease = false)
    (sized : (tape w).acquired.length = (tape w).library.drives.length) {task : Task Status α}
    (steps : task = acquireAndLoadTape driveId tapeId >>= fun leased =>
      tried (askTape (req leased)) >>= fun answer =>
        (ExceptT.lift (releaseDriveBestEffort leased) : Task Status Unit) >>= fun _ =>
          checked (finish leased answer)) : ReturnsDrive machine tape driveId task w ↔
      FailsUnmarked machine tape driveId w ∧ LoadsTape machine driveId tapeId w := by
  -- The task has one end, and there it shows whether the drive is returned.
  suffices ends : task.run.Achieves machine (fun _ after => Returned machine tape driveId w after ↔
      FailsUnmarked machine tape driveId w ∧ LoadsTape machine driveId tapeId w) w by
    obtain ⟨result, after, ran, returned⟩ := achieves_iff_run.mp ends
    simp only [ReturnsDrive, ran, Option.some.injEq, Prod.mk.injEq, ← returned]
    constructor
    · rintro ⟨_, _, ⟨rfl, rfl⟩, back⟩
      exact back
    · exact fun back => ⟨_, _, ⟨rfl, rfl⟩, back⟩
  rw [steps]
  refine achieves_try (acquireAndLoadTape_equips leases) (fun leased between met => ?_)
    fun status after met => ?_
  · cases met with
    | leased index currentTape _ loads answer found free same =>
      have used : (tried (askTape (req (driveIdString index))) :
          Task Status _).run.Achieves machine (fun result after => (∃ value, result = .ok value) ∧
            (tape between).SameLeases (tape after)) between :=
        ⟨leases.enabled _ _, ⟨_, rfl⟩, leases.others _ _ (other _)⟩
      refine achieves_try used (fun outcome behind met => ?_) fun status after met => ?_
      · have all := same.trans met.2
        have there : (tape behind).driveIndex (driveIdString index) = .ok index :=
          driveIndex_congr all.drives found
        -- The drive exists under the name it was leased by, so giving it back succeeds.
        have freed : ((tape behind).releaseDrive (driveIdString index)).2.acquired =
            (tape w).acquired := by
          simp only [releaseDrive, given, there, all.acquired, set_true_set_false free]
        have returned : (ExceptT.lift (releaseDriveBestEffort (driveIdString index)) :
            Task Status Unit).run.Achieves machine (fun result after => result = .ok () ∧
              (tape after).acquired = (tape w).acquired) behind :=
          ⟨leases.enabled _ _, rfl, (congrArg SimulatorState.acquired
            (leases.releases _ _)).trans freed⟩
        refine achieves_try returned (fun _ after done => ?_) fun status after done => ?_
        · refine iff_of_true ⟨done.2, fun acquired number ok named => ?_⟩ ⟨fun status failed => ?_, loads⟩
          · obtain rfl := Except.ok.inj (ok.symm.trans answer)
            rw [AcquireDriveResponse.leased, if_neg (driveIdString_ne index)] at named
            obtain rfl := Except.ok.inj (named.symm.trans found)
            exact done.2 ▸ free
          · cases failed.symm.trans answer
        · cases done.1
      · obtain ⟨_, ⟨⟩⟩ := met.1
  · cases met with
    | refused _ answer =>
      -- Without an answer there is no drive to load or to give back.
      simp [Returned, FailsUnmarked, LoadsTape, answer]
    | unloaded _ index _ unloaded found free same =>
      refine iff_of_false (fun returned => ?_) fun clean => unloaded clean.2
      -- The mark that was set for the client is still there.
      obtain ⟨_, _, there⟩ := driveIndex_eq_ok.mp found
      have inside := sized ▸ (VirtualTapeLibrary.index_lt_of_drive there).2
      have marked := congrArg (List.getD · index false) (same.acquired.symm.trans returned.1)
      simp only [free, List.getD_eq_getElem?_getD, List.getElem?_set_self inside] at marked
      cases marked

/-- A write to a tape returns its drive exactly if it can load the tape. -/
theorem writeBundle_returnsDrive_iff (client : TapeArchiveClient)
    (sized : (tape w).acquired.length = (tape w).library.drives.length)
    (bundleId : String) (objectCount : Nat) (data : Bytes) :
    ReturnsDrive machine tape client.driveId (client.writeBundle bundleId objectCount data) w ↔
      FailsUnmarked machine tape client.driveId w ∧
        LoadsTape machine client.driveId client.tapeId w := by
  let req (leased : String) : TapeRequest := .writeBundle [
    some (.metadata ⟨leased, bundleId, data.length, objectCount, client.blockSize⟩),
    some (.data data)]
  let finish (leased : String) (answer : Except Status WriteBundleResponse) :
      Except Status TapeArchiveWrite := answer >>= client.written leased bundleId
  refine returnsDrive_iff leases req finish (fun _ => rfl) sized ?_
  -- The answer is looked at in the end, and a failure is passed on.
  refine congrArg _ (funext fun leased => congrArg _ (funext fun answer => ?_))
  cases answer <;> rfl

/-- A read from a tape returns its drive exactly if it can load the tape. -/
theorem readBundle_returnsDrive_iff
    (sized : (tape w).acquired.length = (tape w).library.drives.length) (filemark length : Nat) :
    ReturnsDrive machine tape driveId (readBundle driveId tapeId filemark length) w ↔
      FailsUnmarked machine tape driveId w ∧ LoadsTape machine driveId tapeId w := by
  let req (leased : String) : TapeRequest := .readBundle leased (some (.filemark filemark)) length
  let finish (_ : String) (answer : Except Status (List (Message ReadBundleMeta))) :
      Except Status Bytes := answer >>= readBytes
  refine returnsDrive_iff leases req finish (fun _ => rfl) sized ?_
  -- The stream is put together after the drive was given back.
  refine congrArg _ (funext fun leased => congrArg _ (funext fun answer => ?_))
  cases answer <;> rfl

end

/--
After a write or a read, the drive that was leased for it is free exactly if no tape failed to load
and no request for a drive failed after it had marked one.
-/
theorem leased_drive_returned {W : Type} {machine : Machine Call Reply W}
    {tape : W → SimulatorState} (leases : LeasesDrives machine tape) (w : W)
    (sized : (tape w).acquired.length = (tape w).library.drives.length) :
    (∀ (client : TapeArchiveClient) (bundleId : String) (objectCount : Nat) (data : Bytes),
      ReturnsDrive machine tape client.driveId (client.writeBundle bundleId objectCount data)
          w ↔ FailsUnmarked machine tape client.driveId w ∧
          LoadsTape machine client.driveId client.tapeId w) ∧
    ∀ (recallDriveId tapeId : String) (filemark length : Nat),
      ReturnsDrive machine tape recallDriveId (readBundle recallDriveId tapeId filemark length)
          w ↔ FailsUnmarked machine tape recallDriveId w ∧
          LoadsTape machine recallDriveId tapeId w :=
  ⟨fun client => writeBundle_returnsDrive_iff leases client sized,
    fun _ _ => readBundle_returnsDrive_iff leases sized⟩

/-- The one drive is free after a write to the tape in it, and after a read that finds nothing. -/
theorem leased_drive_returned_loaded :
    LoadsTape quietMachine "drive-0" "TAPE-1" oneTapeWorld ∧
      ReturnsDrive quietMachine World.tape "drive-0"
        (oneTapeClient.writeBundle "bundle" 1 [7]) oneTapeWorld ∧
      ReturnsDrive quietMachine World.tape "drive-0"
        (readBundle "drive-0" "TAPE-1" 3 1) oneTapeWorld := by
  have there : (leaseOf quietMachine "drive-0" oneTapeWorld).1 =
    .ok ⟨"drive-0", some "TAPE-1"⟩ := by decide +kernel
  have loads : LoadsTape quietMachine "drive-0" "TAPE-1" oneTapeWorld := by
    intro acquired answer elsewhere
    obtain rfl := Except.ok.inj (answer.symm.trans there)
    exact absurd rfl elsewhere
  have unmarked : FailsUnmarked quietMachine World.tape "drive-0"
    oneTapeWorld := fun status failed => nomatch failed.symm.trans there
  have leases : LeasesDrives quietMachine World.tape :=
    machine_leasesDrives _ fun _ => rfl
  have returned := leased_drive_returned leases oneTapeWorld rfl
  exact ⟨loads, (returned.1 oneTapeClient "bundle" 1 [7]).mpr ⟨unmarked, loads⟩,
    (returned.2 _ _ 3 1).mpr ⟨unmarked, loads⟩⟩

/-- A client that needs a tape nobody has leaves the drive leased, whether it writes or reads. -/
theorem drive_stays_leased :
    let machine := quietMachine
    let client : TapeArchiveClient := { oneTapeClient with tapeId := "TAPE-2" }
    oneTapeWorld.tape.acquired = [false] ∧
      ((client.writeBundle "bundle" 1 [7]).run.run machine oneTapeWorld).map
        (fun ended => (ended.1.isOk, ended.2.tape.acquired)) = some (false, [true]) ∧
      ((readBundle "drive-0" "TAPE-2" 0 1).run.run machine oneTapeWorld).map
        (fun ended => (ended.1.isOk, ended.2.tape.acquired)) = some (false, [true]) := by
  refine ⟨rfl, ?_, ?_⟩ <;> decide +kernel

/-! A leased drive stays leased until somebody gives it back. -/

/-- A call of the tape service: one that schedulers make, or one of the others. -/
inductive DriveCall where
  | asked (req : TapeRequest)
  | insertTape (slotId tapeId : String)
  | unloadTape (driveId : String) (targetSlotId : Option String)
  | rewind (driveId : String)
  | seekToFilemark (driveId : String) (filemark : Nat)

/-- The simulator after a call, whether it failed or not. -/
def DriveCall.leaves (s : SimulatorState) : DriveCall → SimulatorState
  | .asked req => (req.serve s).2
  | .insertTape slotId tapeId => (s.insertTape slotId tapeId).2
  | .unloadTape driveId targetSlotId => (s.unloadTape driveId targetSlotId).2
  | .rewind driveId => (s.rewind driveId).2
  | .seekToFilemark driveId filemark => (s.seekToFilemark driveId filemark).2

/-- What a call can do to the leases and the tapes. -/
inductive CallEffect (s : SimulatorState) (call : DriveCall) : SimulatorState → Prop where
  | handled {α : Type} {served : Served α} (handles : s.Handles served) : CallEffect s call served.2
  | inserted (slotId tapeId : String) (slot : ElementAddress) (element : Element)
      (sent : call = .insertTape slotId tapeId) (there : s.library.place slot = .ok element) :
      CallEffect s call { s with library := s.library.setPlace slot (some { barcode := tapeId }) }
  | leased (index : Nat) :
      CallEffect s call { s with acquired := s.acquired.set index true }
  | returned (driveId : String) (index : Nat) (sent : call = .asked (.releaseDrive driveId))
      (parsed : parseDriveId driveId = .ok ⟨.drive, index⟩) :
      CallEffect s call { s with acquired := s.acquired.set index false }

/-- A call does one of these things. -/
theorem leaves_effect (s : SimulatorState) (call : DriveCall) :
    CallEffect s call (call.leaves s) := by
  cases call with
  | asked req =>
    cases req with
    | acquireDrive preferred required =>
      have grants := acquireDrive_grants s preferred required
      show CallEffect _ _ (s.acquireDrive preferred required).2
      generalize s.acquireDrive preferred required = served at grants
      cases grants with
      | refused status => exact .handled (handles_failed status)
      | granted index => exact .leased index
    | releaseDrive driveId =>
      show CallEffect _ _ (s.releaseDrive driveId).2
      unfold SimulatorState.releaseDrive
      cases found : s.driveIndex driveId with
      | error status => exact .handled (handles_failed status)
      | ok index => exact .returned driveId index rfl (driveIndex_eq_ok.mp found).1
    | loadTape | writeBundle | readBundle => exact .handled (TapeRequest.serve_handles _ s rfl)
  | insertTape slotId tapeId =>
    obtain same | ⟨slot, element, _, there, same⟩ := s.insertTape_cases slotId tapeId
    · exact .handled ⟨congrArg SimulatorState.acquired same, by rw [same]⟩
    · simp only [DriveCall.leaves, same]
      exact .inserted slotId tapeId slot element rfl there
  | unloadTape driveId targetSlotId =>
    exact .handled (unloadTape_handles s driveId targetSlotId)
  | rewind driveId =>
    exact .handled (given_of handles_failed fun drive _ =>
      handles_onLoadedTape s drive fun _ => rfl)
  | seekToFilemark driveId filemark =>
    exact .handled (given_of handles_failed fun drive _ => position_handles s drive filemark)

/-- Different drives have different names. -/
theorem driveIdString_injective : Function.Injective driveIdString := by
  intro index other same
  have digits : decimal index = decimal other := by simpa [driveIdString] using same
  -- With enough bits, both numbers are read back.
  have small : ∀ {value}, value ≤ max index other → value < 2 ^ max index other :=
    fun below => below.trans_lt Nat.lt_two_pow_self
  have read := parseUnsigned_decimal (small (le_max_left index other))
  rw [digits, parseUnsigned_decimal (small (le_max_right index other))] at read
  exact (Option.some.inj read).symm

section

variable {s after : SimulatorState} {call : DriveCall}

/-- There is a mark for every drive. -/
theorem CallEffect.sized (effect : CallEffect s call after)
    (sized : s.acquired.length = s.library.drives.length) :
    after.acquired.length = after.library.drives.length := by
  cases effect with
  | handled handles =>
    have drives := congrArg List.length handles.sameLeases.drives
    simp only [VirtualTapeLibrary.driveAddresses, List.length_map] at drives
    rw [handles.1, sized, drives]
  | inserted => simpa using sized
  | leased | returned => simpa using sized

/-- Only its own release takes the mark from a leased drive. -/
theorem CallEffect.marked (effect : CallEffect s call after) {index : Nat}
    (marked : s.acquired[index]? = some true)
    (unreturned : ∀ driveId, call = .asked (.releaseDrive driveId) →
      parseDriveId driveId ≠ .ok ⟨.drive, index⟩) : after.acquired[index]? = some true := by
  cases effect with
  | handled handles => rw [handles.1, marked]
  | inserted => exact marked
  | leased other =>
    by_cases same : other = index
    · obtain ⟨inside, _⟩ := List.getElem?_eq_some_iff.mp marked
      rw [same, List.getElem?_set_self inside]
    · rw [List.getElem?_set_ne same, marked]
  | returned driveId other sent parsed =>
    have ne : other ≠ index := fun same => unreturned driveId sent (same ▸ parsed)
    rw [List.getElem?_set_ne ne, marked]

end

/--
A drive that was leased is leased to nobody else until it is given back by its number.

Whatever calls come between, of any clients, whether they succeed or fail.
-/
theorem lease_held_until_returned {slotCount driveCount index : Nat} {currentTape : Option String}
    (before between : List DriveCall) (preferred required : Option String) :
    let s := before.foldl DriveCall.leaves (.new slotCount driveCount)
    (s.acquireDrive preferred required).1 = .ok ⟨driveIdString index, currentTape⟩ →
      (∀ driveId, .asked (.releaseDrive driveId) ∈ between →
        parseDriveId driveId ≠ .ok ⟨.drive, index⟩) → ∀ preferred' required' currentTape',
        ((between.foldl DriveCall.leaves (s.acquireDrive preferred required).2).acquireDrive
          preferred' required').1 ≠ .ok ⟨driveIdString index, currentTape'⟩ := by
  intro s granted unreturned preferred' required' currentTape' again
  have sized : s.acquired.length = s.library.drives.length := by
    refine List.foldlRecOn before _ ?_ fun s sized call _ =>
      (leaves_effect s call).sized sized
    simp [SimulatorState.new, VirtualTapeLibrary.new]
  -- The first grant sets the mark of the drive.
  have first : (s.acquireDrive preferred required).2.acquired[index]? = some true := by
    have grants := acquireDrive_grants s preferred required
    generalize s.acquireDrive preferred required = served at grants granted
    cases grants with
    | refused status => cases granted
    | granted number tape _ there =>
      obtain ⟨_, there⟩ := there
      obtain rfl := driveIdString_injective (congrArg AcquireDriveResponse.driveId
        (Except.ok.inj granted))
      exact List.getElem?_set_self (sized ▸ (VirtualTapeLibrary.index_lt_of_drive there).2)
  have marked : (between.foldl DriveCall.leaves _).acquired[index]? = some true :=
    List.foldlRecOn (motive := fun s => s.acquired[index]? = some true) between _ first
      fun s marked call mem => (leaves_effect s call).marked marked
        fun driveId sent => unreturned driveId (sent ▸ mem)
  -- A second grant would have found it unset.
  generalize between.foldl DriveCall.leaves _ = last at marked again
  have grants := acquireDrive_grants last preferred' required'
  generalize last.acquireDrive preferred' required' = served at grants again
  cases grants with
  | refused status => cases again
  | granted number tape _ _ free =>
    obtain rfl := driveIdString_injective (congrArg AcquireDriveResponse.driveId
      (Except.ok.inj again))
    rw [List.getD_eq_getElem?_getD, marked] at free
    cases free

/-- The one drive of a library is not leased a second time while a tape is brought in. -/
theorem lease_held_until_returned_one :
    let s := SimulatorState.new 1 1
    let between := [.insertTape "slot-1" "TAPE-1", .asked (.releaseDrive "drive-1")]
    (s.acquireDrive none none).1 = .ok ⟨driveIdString 0, none⟩ ∧
      ((between.foldl DriveCall.leaves (s.acquireDrive none none).2).acquireDrive
        (some "drive-0") none).1 ≠ .ok ⟨driveIdString 0, none⟩ := by
  have granted : ((SimulatorState.new 1 1).acquireDrive none none).1 = .ok ⟨driveIdString 0, none⟩ := by
    decide +kernel
  refine ⟨granted, lease_held_until_returned [] _ none none granted ?_ _ _ _⟩
  intro driveId mem
  simp only [List.mem_cons, reduceCtorEq, DriveCall.asked.injEq, TapeRequest.releaseDrive.injEq,
    List.not_mem_nil, or_false, false_or] at mem
  rw [mem]
  decide +kernel

end ColdStore.Scheduler
