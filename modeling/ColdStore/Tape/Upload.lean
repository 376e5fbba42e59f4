import ColdStore.Process.Program
import ColdStore.Tape.Service

/-! Streamed bundles on their way to any tape backend, when the stream itself may fail. -/

namespace ColdStore

open Rust Process

/-- One item of a stream of requests, which may be an error of the connection. -/
abbrev StreamItem := Except Status (Message WriteBundleMeta)

/-- Put together the data behind the first item of a stream. -/
def collectItems : Bytes → List StreamItem → Except Status Bytes
  | data, [] => .ok data
  | _, .error status :: _ => .error status
  | data, .ok (some (.data chunk)) :: rest => collectItems (data ++ chunk) rest
  | _, .ok (some (.metadata _)) :: _ => .error (.invalidArgument
      "write_bundle metadata must appear only once as the first message")
  | _, .ok none :: _ => .error (.invalidArgument "write_bundle message has no payload")

/-- A bundle and its description, when the stream carries them in order and in full. -/
def receiveItems : List StreamItem → Except Status (WriteBundleMeta × Bytes)
  | [] => .error (.invalidArgument "write_bundle stream is empty")
  | .error status :: _ => .error status
  | .ok (some (.data _)) :: _ =>
    .error (.invalidArgument "first write_bundle message must carry metadata")
  | .ok none :: _ => .error (.invalidArgument "write_bundle message has no payload")
  | .ok (some (.metadata bundle)) :: items => do
    let data ← collectItems [] items
    ensure (bundle.totalSize = data.length) (.invalidArgument
      ("write_bundle total_size=" ++ decimal bundle.totalSize ++
        " does not match received bytes=" ++ decimal data.length))
    pure (bundle, data)

/-- The call of a backend that writes a bundle; its answer is where the bundle begins and ends. -/
structure BackendWrite where
  driveId : String
  data : Bytes
  deriving DecidableEq

/-- What a backend answers. -/
abbrev BackendWrite.Answer (_ : BackendWrite) : Type := Except Status (Nat × Nat)

/-- What is answered about a bundle that a backend has written. -/
def WriteBundleMeta.written (bundle : WriteBundleMeta) (data : Bytes) (filemarks : Nat × Nat) :
    WriteBundleResponse where
  driveId := bundle.driveId
  bundleId := bundle.bundleId
  bytesWritten := data.length
  filemarkStart := filemarks.1
  filemarkEnd := filemarks.2
  checksum := none
  success := true
  error := none

/-- Hand a streamed bundle to a backend. -/
def writeBundleFromMessages (items : List StreamItem) :
    Program BackendWrite BackendWrite.Answer (Except Status WriteBundleResponse) :=
  match receiveItems items with
  | .error status => .done (.error status)
  | .ok (bundle, data) =>
    .call ⟨bundle.driveId, data⟩ fun answer => .done (answer.map (bundle.written data))

/-- The simulator as a backend. -/
def SimulatorState.backend : Machine BackendWrite BackendWrite.Answer SimulatorState where
  enabled _ _ := true
  serve write s := s.writeBundle write.driveId write.data

/-! Streams without an error. -/

theorem collectItems_ok (data : Bytes) (messages : List (Message WriteBundleMeta)) :
    collectItems data (messages.map .ok) = collectBundle data messages := by
  induction messages generalizing data with
  | nil => rfl
  | cons message rest ih =>
    match message with
    | none => rfl
    | some (.metadata bundle) => rfl
    | some (.data chunk) => exact ih (data ++ chunk)

theorem receiveItems_ok (messages : List (Message WriteBundleMeta)) :
    receiveItems (messages.map .ok) = receiveBundle messages := by
  match messages with
  | [] => rfl
  | none :: rest => rfl
  | some (.data chunk) :: rest => rfl
  | some (.metadata bundle) :: rest =>
    rw [List.map_cons, receiveItems, collectItems_ok, receiveBundle]

/-- With the simulator behind it, a stream without an error is served as the simulator serves it. -/
theorem run_writeBundleFromMessages (s : SimulatorState)
    (messages : List (Message WriteBundleMeta)) :
    (writeBundleFromMessages (messages.map .ok)).run SimulatorState.backend s =
      some (s.writeBundleFromMessages messages) := by
  rw [writeBundleFromMessages, receiveItems_ok, SimulatorState.writeBundleFromMessages]
  cases receiveBundle messages with
  | error status => rfl
  | ok received =>
    simp only [Program.run, SimulatorState.backend, if_true, SimulatorState.given,
      SimulatorState.andThen]
    cases s.writeBundle received.1.driveId received.2 with
    | mk answer after => cases answer <;> rfl

/-! Streams that deliver a bundle. -/

/-- One description, and behind it only data, of the length that was described. -/
structure Delivers (items : List StreamItem) (bundle : WriteBundleMeta) (chunks : List Bytes) :
    Prop where
  stream : items = .ok (some (.metadata bundle)) :: chunks.map fun chunk => .ok (some (.data chunk))
  length : bundle.totalSize = chunks.flatten.length

/-- Data is put together from data items only. -/
theorem collectItems_eq_ok {items : List StreamItem} {data received : Bytes} :
    collectItems data items = .ok received ↔
      ∃ chunks : List Bytes, items = (chunks.map fun chunk => .ok (some (.data chunk))) ∧
        received = data ++ chunks.flatten := by
  -- Only data items let the collection go on, so a stream that ends well is made of them.
  induction items generalizing data with
  | nil =>
    constructor
    · intro collected
      cases collected
      exact ⟨[], rfl, (List.append_nil _).symm⟩
    · intro ⟨chunks, empty, whole⟩
      subst whole
      obtain rfl : chunks = [] := List.map_eq_nil_iff.mp empty.symm
      rw [List.flatten_nil, List.append_nil, collectItems]
  | cons item rest ih =>
    constructor
    · intro collected
      match item with
      | .error status => cases collected
      | .ok none => cases collected
      | .ok (some (.metadata bundle)) => cases collected
      | .ok (some (.data chunk)) =>
        obtain ⟨chunks, rfl, rfl⟩ := ih.mp collected
        exact ⟨chunk :: chunks, rfl, by rw [List.flatten_cons, List.append_assoc]⟩
    · rintro ⟨chunks, stream, rfl⟩
      cases chunks with
      | nil => cases stream
      | cons chunk chunks =>
        cases stream
        rw [collectItems, ih]
        exact ⟨chunks, rfl, by rw [List.flatten_cons, List.append_assoc]⟩

/-- What is received is what the stream delivers. -/
theorem receiveItems_eq_ok {items : List StreamItem} {bundle : WriteBundleMeta} {data : Bytes} :
    receiveItems items = .ok (bundle, data) ↔
      ∃ chunks, Delivers items bundle chunks ∧ data = chunks.flatten := by
  constructor
  · intro received
    -- The first item has to be the description, and what follows it is collected.
    match items with
    | [] => cases received
    | .error status :: _ => cases received
    | .ok none :: _ => cases received
    | .ok (some (.data chunk)) :: _ => cases received
    | .ok (some (.metadata described)) :: rest =>
      simp only [receiveItems, bind_eq_ok, ensure_eq_ok, decide_eq_true_eq] at received
      obtain ⟨sent, collected, _, fits, same⟩ := received
      cases same
      obtain ⟨chunks, rfl, rfl⟩ := collectItems_eq_ok.mp collected
      exact ⟨chunks, ⟨rfl, fits⟩, rfl⟩
  · rintro ⟨chunks, delivers, rfl⟩
    rw [delivers.stream]
    simp only [receiveItems, bind_eq_ok, ensure_eq_ok, decide_eq_true_eq]
    exact ⟨chunks.flatten, collectItems_eq_ok.mpr ⟨chunks, rfl, rfl⟩, (), delivers.length, rfl⟩

end ColdStore
