import ColdStore.Proto.Stream
import ColdStore.Tape.Simulator

/-! The procedures of `TapeService` that carry bundles. -/

namespace ColdStore

open Rust

/-- Description of a bundle to write. -/
structure WriteBundleMeta where
  driveId : String
  bundleId : String
  totalSize : Nat
  objectCount : Nat
  blockSize : Nat
  deriving DecidableEq

/-- Where a bundle was written. -/
structure WriteBundleResponse where
  driveId : String
  bundleId : String
  bytesWritten : Nat
  filemarkStart : Nat
  filemarkEnd : Nat
  checksum : Option String
  success : Bool
  error : Option String
  deriving DecidableEq

/-- Description of a bundle that was read. -/
structure ReadBundleMeta where
  totalSize : Nat
  checksum : Option String
  deriving DecidableEq

/-- Where on a tape to read. -/
inductive ReadLocation where
  | filemark (number : Nat)
  | blockOffset (offset : Nat)
  deriving DecidableEq

/-- Put together the data behind the first message of a bundle. -/
def collectBundle : Bytes → List (Message WriteBundleMeta) → Except Status Bytes
  | data, [] => .ok data
  | data, some (.data chunk) :: rest => collectBundle (data ++ chunk) rest
  | _, some (.metadata _) :: _ => .error (.invalidArgument
      "write_bundle metadata must appear only once as the first message")
  | _, none :: _ => .error (.invalidArgument "write_bundle message has no payload")

/-- A bundle and its description, when the messages carry them in order and in full. -/
def receiveBundle : List (Message WriteBundleMeta) → Except Status (WriteBundleMeta × Bytes)
  | [] => .error (.invalidArgument "write_bundle stream is empty")
  | some (.data _) :: _ =>
    .error (.invalidArgument "first write_bundle message must carry metadata")
  | none :: _ => .error (.invalidArgument "write_bundle message has no payload")
  | some (.metadata bundle) :: messages => do
    let data ← collectBundle [] messages
    ensure (bundle.totalSize = data.length) (.invalidArgument
      ("write_bundle total_size=" ++ decimal bundle.totalSize ++
        " does not match received bytes=" ++ decimal data.length))
    pure (bundle, data)

namespace SimulatorState

/-- Write a streamed bundle to a drive. -/
def writeBundleFromMessages (s : SimulatorState) (messages : List (Message WriteBundleMeta)) :
    Served WriteBundleResponse := s.given (receiveBundle messages) fun (bundle, data) =>
  andThen (s.writeBundle bundle.driveId data) fun (filemarkStart, filemarkEnd) s =>
    (.ok ⟨bundle.driveId, bundle.bundleId, data.length, filemarkStart, filemarkEnd, none, true,
      none⟩, s)

/-- Stream a bundle from a drive. -/
def readBundleStream (s : SimulatorState) (driveId : String) (location : Option ReadLocation)
    (length : Nat) : Served (List (Message ReadBundleMeta)) :=
  s.given (match location with
    | some (.filemark number) => .ok number
    | some (.blockOffset _) => .error (.unimplemented ("phase-1 simulator supports filemark-based " ++
        "reads; block offset reads require live SCSI/tape integration"))
    | none => .error (.invalidArgument "read_bundle location is required")) fun filemark =>
  andThen (s.readBundle driveId filemark length) fun data s =>
    let pieces := if data.isEmpty then [] else [some (.data data)]
    (.ok (some (.metadata ⟨data.length, none⟩) :: pieces), s)

end SimulatorState

end ColdStore
