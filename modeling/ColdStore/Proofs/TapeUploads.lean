import ColdStore.Tape.Upload

/-! A streamed bundle reaches the tape as a whole, or nothing does. -/

namespace ColdStore

open Rust Process

/-- A stream that delivers a bundle makes one call, and answers what the backend made of it. -/
theorem Delivers.program {items : List StreamItem} {bundle : WriteBundleMeta} {chunks : List Bytes}
    (delivers : Delivers items bundle chunks) :
    writeBundleFromMessages items = .call ⟨bundle.driveId, chunks.flatten⟩ fun answer =>
      .done (answer.map (bundle.written chunks.flatten)) := by
  rw [writeBundleFromMessages, receiveItems_eq_ok.mpr ⟨chunks, delivers, rfl⟩]

/-- Any other stream is answered without a call. -/
theorem undelivered_program {items : List StreamItem}
    (undelivered : ¬ ∃ bundle chunks, Delivers items bundle chunks) :
    ∃ status, writeBundleFromMessages items = .done (.error status) := by
  cases received : receiveItems items with
  | error status => exact ⟨status, by rw [writeBundleFromMessages, received]⟩
  | ok result =>
    obtain ⟨chunks, delivers, _⟩ := receiveItems_eq_ok.mp received
    exact absurd ⟨result.1, chunks, delivers⟩ undelivered

/--
A backend is called for the streams that deliver a bundle, and for no others: once, for the whole
bundle. A bundle that it accepts is reported in its full length.

Every other stream fails, whatever the backend is, and leaves the backend as it was.
-/
theorem upload_reaches_backend_iff (items : List StreamItem) :
    (∀ write next, writeBundleFromMessages items = .call write next ↔
      ∃ bundle chunks, Delivers items bundle chunks ∧
        write = ⟨bundle.driveId, chunks.flatten⟩ ∧
        next = fun answer => .done (answer.map fun (filemarkStart, filemarkEnd) =>
          { driveId := bundle.driveId, bundleId := bundle.bundleId
            bytesWritten := chunks.flatten.length, filemarkStart, filemarkEnd, checksum := none
            success := true, error := none })) ∧
    ((¬ ∃ bundle chunks, Delivers items bundle chunks) →
      ∃ status, writeBundleFromMessages items = .done (.error status) ∧
        ∀ (W : Type) (backend : Machine BackendWrite BackendWrite.Answer W) (before : W),
          (writeBundleFromMessages items).run backend before = some (.error status, before)) := by
  refine ⟨fun write next => ⟨fun calls => ?_, ?_⟩, fun undelivered => ?_⟩
  · -- Only a stream that delivers a bundle has a call as its program.
    by_cases delivered : ∃ bundle chunks, Delivers items bundle chunks
    · obtain ⟨bundle, chunks, delivers⟩ := delivered
      rw [delivers.program] at calls
      cases calls
      exact ⟨bundle, chunks, delivers, rfl, rfl⟩
    · obtain ⟨status, failed⟩ := undelivered_program delivered
      rw [failed] at calls
      cases calls
  · intro ⟨bundle, chunks, delivers, called, goes⟩
    rw [delivers.program, called, goes]
    rfl
  · obtain ⟨status, failed⟩ := undelivered_program undelivered
    refine ⟨status, failed, fun W backend before => ?_⟩
    rw [failed, Program.run]

/-- A description of two octets, followed by one octet and the loss of the connection. -/
def brokenUpload : List StreamItem :=
  [.ok (some (.metadata ⟨"drive-0", "bundle", 2, 1, 1⟩)), .ok (some (.data [1])),
    .error (.unavailable "connection reset")]

/-- The octet that arrived is not written. -/
theorem upload_reaches_backend_iff_broken :
    ∃ status, writeBundleFromMessages brokenUpload = .done (.error status) := by
  have undelivered : ¬ ∃ bundle chunks, Delivers brokenUpload bundle chunks := by
    intro ⟨bundle, chunks, delivers⟩
    have received := receiveItems_eq_ok.mpr ⟨chunks, delivers, rfl⟩
    cases received
  obtain ⟨status, failed, _⟩ := (upload_reaches_backend_iff brokenUpload).2 undelivered
  exact ⟨status, failed⟩

end ColdStore
