import ColdStore.Metadata.SnapshotLaws

/-! A snapshot is read back exactly when it keeps the limits of the reader, and then unchanged. -/

namespace ColdStore

open Rust

/--
A snapshot that is written can be read within the limits of the reader and not beyond them.

What is read back has all nine maps equal to those written.
-/
theorem snapshot_exact (codecs : MessageCodecs) (s : MetadataState) (agree : s.KeysAgree)
    (roundTrips : codecs.All Codec.RoundTrips s) (fits : codecs.All Codec.Fits s) :
    ((∃ decoded, decodeSnapshot codecs (encodeSnapshot codecs s) = .ok decoded) ↔
      codecs.All Codec.WithinLimits s) ∧
    ∀ decoded, decodeSnapshot codecs (encodeSnapshot codecs s) = .ok decoded → decoded ≈ s := by
  have exactly := decodeSnapshot_eq_ok roundTrips fits
  -- What decodes is what was collected from the state, in one order of iteration.
  constructor
  · constructor
    · rintro ⟨decoded, read⟩
      exact ((exactly decoded).mp read).1
    · intro within
      exact ⟨_, (exactly _).mpr ⟨within, rfl⟩⟩
  · intro decoded read
    rw [((exactly decoded).mp read).2]
    exact MetadataState.recollected_equiv agree

/-- How a record with nothing but a short text in its first field is written. -/
def namedCodec {M : Type} (name : M → String) (record : String → M) : Codec M where
  encodeToVec message :=
    match (name message).toList with
    | [] => []
    | chars => 10 :: UInt8.ofNat chars.length :: chars.map fun c => UInt8.ofNat c.toNat
  decode
    | [] => .ok (record "")
    | tag :: length :: bytes =>
      if tag = 10 ∧ bytes.length = length.toNat then
        .ok (record (String.ofList (bytes.map fun byte => Char.ofNat byte.toNat)))
      else .error "failed to decode Protobuf message"
    | _ => .error "failed to decode Protobuf message"

/-- How a record that has only defaults is written. -/
def defaultCodec {M : Type} (record : M) : Codec M where
  encodeToVec _ := []
  decode
    | [] => .ok record
    | _ => .error "failed to decode Protobuf message"

/-- Codecs that write records with an identity and otherwise defaults as the library does. -/
def namedCodecs : MessageCodecs where
  objectMetadata := namedCodec ObjectMetadata.bucket fun bucket => { bucket }
  bucketInfo := namedCodec BucketInfo.name fun name => { name }
  archiveBundle := namedCodec ArchiveBundle.id fun id => { id }
  archiveTask := namedCodec ArchiveTask.id fun id => { id }
  recallTask := namedCodec RecallTask.id fun id => { id }
  tapeInfo := namedCodec TapeInfo.id fun id => { id }
  schedulerWorkerInfo := defaultCodec {}
  cacheWorkerInfo := defaultCodec {}
  tapeWorkerInfo := defaultCodec {}

/-- One tape and one bucket are written and read back. -/
def oneTape : MetadataState where
  buckets := HashMap.empty.insert "docs" { name := "docs" }
  tapes := HashMap.empty.insert "TAPE-1" { id := "TAPE-1" }

/-- A bucket and a tape come back from their snapshot. -/
theorem snapshot_exact_oneTape :
    ((∃ decoded, decodeSnapshot namedCodecs (encodeSnapshot namedCodecs oneTape) = .ok decoded) ↔
      namedCodecs.All Codec.WithinLimits oneTape) ∧
    ∀ decoded, decodeSnapshot namedCodecs (encodeSnapshot namedCodecs oneTape) = .ok decoded →
      decoded ≈ oneTape := by
  refine snapshot_exact namedCodecs oneTape ?_ ?_ ?_
  · constructor <;> intro entry mem <;> revert mem <;> revert entry <;> decide
  · simp only [MessageCodecs.All, Codec.RoundTrips]
    decide
  · simp only [MessageCodecs.All, Codec.Fits]
    decide

end ColdStore
