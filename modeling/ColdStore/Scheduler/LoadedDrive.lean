import ColdStore.Scheduler.ArchiveBatch
import ColdStore.Tape.Leases

/-! Workers that use a drive with the tape they need already in it. -/

namespace ColdStore.Scheduler

open Rust Process Program SimulatorState

/-- Nothing has changed but the tapes. -/
structure TapesOnly (before after : World) : Prop where
  metadata : after.metadata = before.metadata
  cache : after.cache = before.cache
  schedulers : after.schedulers = before.schedulers

theorem TapesOnly.trans {first second third : World} (left : TapesOnly first second)
    (right : TapesOnly second third) : TapesOnly first third :=
  ⟨right.metadata.trans left.metadata, right.cache.trans left.cache,
    right.schedulers.trans left.schedulers⟩

section

variable {svc : CacheService} {env : Nat → Moment} (calm : Calm env) {w : World}
  {index counter : Nat} {tape : VirtualTape}

include calm

/-- The drive is leased, and the tape need not be loaded. -/
theorem acquireAndLoadTape_free (holds : w.tape.HoldsFree index tape counter)
    {driveId tapeId : String} (parsed : parseDriveId driveId = .ok ⟨.drive, index⟩)
    (barcode : tape.barcode = tapeId) :
    Succeeds (machine svc env) (acquireAndLoadTape driveId tapeId)
      (fun leased after => leased = driveIdString index ∧ TapesOnly w after ∧
        after.tape.Holds index tape counter) w := by
  have acquired : Succeeds (machine svc env)
      (askTape (.acquireDrive (some driveId) none))
      (fun (response : AcquireDriveResponse) after =>
        response = ⟨driveIdString index, some tape.barcode⟩ ∧ TapesOnly w after ∧
          after.tape.Holds index tape counter) w := by
    have served : (TapeRequest.acquireDrive (some driveId) none).serve w.tape = _ :=
      acquireDrive_free holds parsed
    refine (succeeds_askTape calm served).mono fun response after met => ?_
    obtain ⟨same, tape, metadata, cache, schedulers⟩ := met
    exact ⟨same, ⟨metadata, cache, schedulers⟩, tape ▸ holds.toHolds.leased _⟩
  refine succeeds_bind acquired fun response after met => ?_
  obtain ⟨rfl, only, holds⟩ := met
  have name : AcquireDriveResponse.leased driveId ⟨driveIdString index, some tape.barcode⟩ =
      driveIdString index := if_neg (driveIdString_ne index)
  rw [name, loadUnlessLoaded, if_neg (by simp [barcode])]
  exact succeeds_pure ⟨rfl, only, holds⟩

/-- The drive is given back. -/
theorem releaseDriveBestEffort_frees (holds : w.tape.Holds index tape counter) :
    (releaseDriveBestEffort (driveIdString index)).Achieves (machine svc env)
      (fun _ after => TapesOnly w after ∧ after.tape.HoldsFree index tape counter) w := by
  obtain ⟨released, freed⟩ := releaseDrive_frees holds
  refine achieves_bind (succeeds_askTape calm released) fun answer after met => ?_
  obtain ⟨_, _, _, tape, metadata, cache, schedulers⟩ := met
  exact ⟨⟨metadata, cache, schedulers⟩, tape ▸ freed⟩

/-- A bundle is written at the head of the tape and numbered by the counter of the drive. -/
theorem writeBundle_loaded {client : TapeArchiveClient} (bundleId : String) (data : Bytes)
    (holds : w.tape.HoldsFree index tape counter)
    (parsed : parseDriveId client.driveId = .ok ⟨.drive, index⟩)
    (barcode : tape.barcode = client.tapeId) :
    Succeeds (machine svc env) (client.writeBundle bundleId 1 data)
      (fun write after => TapesOnly w after ∧ write = ⟨client.tapeId, client.tapeSet, counter,
          (counter + 1) % 2 ^ 32, data.length⟩ ∧
        after.tape.HoldsFree index (tape.appendData data).appendFilemark
          ((counter + 1) % 2 ^ 32)) w := by
  refine succeeds_bind (acquireAndLoadTape_free calm holds parsed barcode)
    fun driveId first met => ?_
  obtain ⟨rfl, only, held⟩ := met
  obtain ⟨written, served, heldAfter⟩ :=
    writeBundleFromMessages_holds held bundleId 1 client.blockSize data
  refine succeeds_bind (succeeds_lift (succeeds_askTape calm served)) fun answer second met => ?_
  obtain ⟨response, rfl, rfl, tape, metadata, cache, schedulers⟩ := met
  refine succeeds_bind (succeeds_lift (releaseDriveBestEffort_frees calm (tape ▸ heldAfter)))
    fun _ third met => ?_
  have checks : client.written (driveIdString index) bundleId ⟨driveIdString index, bundleId,
      data.length, counter, (counter + 1) % 2 ^ 32, none, true, none⟩ =
        .ok ⟨client.tapeId, client.tapeSet, counter, (counter + 1) % 2 ^ 32, data.length⟩ := by
    simp [TapeArchiveClient.written, ensure, Bind.bind, Except.bind, Pure.pure, Except.pure]
  refine (succeeds_checked checks).mono fun write after done => ?_
  obtain ⟨rfl, idle⟩ := done
  have all : TapesOnly w third := (only.trans ⟨metadata, cache, schedulers⟩).trans met.1
  exact ⟨all.trans ⟨idle.metadata, idle.cache, idle.schedulers⟩, rfl, idle.tape ▸ met.2⟩

/-- A bundle is read back by its number, and the records stay as they are. -/
theorem readBundle_loaded {driveId tapeId : String} {bundles : List Bytes} {number : Nat}
    {data : Bytes} (holds : w.tape.HoldsFree index tape counter)
    (parsed : parseDriveId driveId = .ok ⟨.drive, index⟩) (barcode : tape.barcode = tapeId)
    (records : tape.records = bundleRecords bundles) (stored : bundles[number]? = some data)
    (small : data.length ≤ usizeMax) :
    Succeeds (machine svc env) (readBundle driveId tapeId number data.length)
      (fun found after => found = data ∧ TapesOnly w after ∧
        ∃ next, after.tape.HoldsFree index next counter ∧ next.records = tape.records ∧
          next.barcode = tape.barcode) w := by
  refine succeeds_bind (acquireAndLoadTape_free calm holds parsed barcode)
    fun driveId first met => ?_
  obtain ⟨rfl, only, held⟩ := met
  obtain ⟨read, next, served, heldAfter, same, name⟩ :=
    readBundleStream_holds held records stored small
  refine succeeds_bind (succeeds_lift (succeeds_askTape calm served)) fun answer second met => ?_
  obtain ⟨response, rfl, rfl, tape, metadata, cache, schedulers⟩ := met
  refine succeeds_bind (succeeds_lift (releaseDriveBestEffort_frees calm (tape ▸ heldAfter)))
    fun _ third met => ?_
  have received : readBytes (some (.metadata ⟨data.length, none⟩) ::
      if data.isEmpty then [] else [some (.data data)]) = .ok data := by
    cases data <;> simp [readBytes, drainStream, ensure, Bind.bind, Except.bind, Pure.pure,
      Except.pure]
  refine (succeeds_checked received).mono fun found after done => ?_
  obtain ⟨rfl, idle⟩ := done
  have all : TapesOnly w third := (only.trans ⟨metadata, cache, schedulers⟩).trans met.1
  exact ⟨rfl, all.trans ⟨idle.metadata, idle.cache, idle.schedulers⟩, next, idle.tape ▸ met.2,
    same, name⟩

/-- The writer of a drive that holds the tape of an archive worker. -/
def loadedWriter (client : TapeArchiveClient) (index : Nat)
    (parsed : parseDriveId client.driveId = .ok ⟨.drive, index⟩) :
    TapeWriter (machine svc env) client where
  ready s := ∃ tape counter, s.HoldsFree index tape counter ∧ tape.barcode = client.tapeId
  wrote before data write after := ∀ tape counter, before.HoldsFree index tape counter →
    tape.barcode = client.tapeId →
    write = ⟨client.tapeId, client.tapeSet, counter, (counter + 1) % 2 ^ 32, data.length⟩ ∧
      after.HoldsFree index (tape.appendData data).appendFilemark ((counter + 1) % 2 ^ 32)
  writes := by
    rintro s bundleId data ⟨tape, counter, holds, barcode⟩ w rfl
    refine (writeBundle_loaded calm bundleId data holds parsed barcode).mono
      fun write after met => ?_
    obtain ⟨only, rfl, held⟩ := met
    refine ⟨⟨fun other count again _ => ?_, _, _, held, barcode⟩, rfl, only.metadata, only.cache,
      only.schedulers⟩
    obtain ⟨rfl, rfl⟩ := holds.toHolds.unique again.toHolds
    exact ⟨rfl, held⟩

end

end ColdStore.Scheduler
