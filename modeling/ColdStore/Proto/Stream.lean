import ColdStore.Rust.Status

/-! Streamed requests and answers, as the lists of their messages. -/

namespace ColdStore

open Rust

/-- One message of a stream that carries a description and data. -/
inductive Chunk (μ : Type) where
  | metadata (description : μ)
  | data (bytes : Bytes)
  deriving DecidableEq

/-- A streamed message, whose payload may be missing. -/
abbrev Message (μ : Type) := Option (Chunk μ)

variable {μ : Type}

/-- The last description a service receives, and the data put together. -/
def collectMessages (emptyChunk : String) :
    Option μ → Bytes → List (Message μ) → Except Status (Option μ × Bytes)
  | description, data, [] => .ok (description, data)
  | _, data, some (.metadata description) :: rest =>
    collectMessages emptyChunk (some description) data rest
  | description, data, some (.data bytes) :: rest =>
    collectMessages emptyChunk description (data ++ bytes) rest
  | _, _, none :: _ => .error (.invalidArgument emptyChunk)

/-- The only description a client receives, and the data put together. -/
def drainStream (duplicate emptyChunk : Status) :
    Option μ → Bytes → List (Message μ) → Except Status (Option μ × Bytes)
  | description, data, [] => .ok (description, data)
  | none, data, some (.metadata description) :: rest =>
    drainStream duplicate emptyChunk (some description) data rest
  | some _, _, some (.metadata _) :: _ => .error duplicate
  | description, data, some (.data bytes) :: rest =>
    drainStream duplicate emptyChunk description (data ++ bytes) rest
  | _, _, none :: _ => .error emptyChunk

/-- Data in any pieces is put together again. -/
theorem drainStream_data (duplicate emptyChunk : Status) (description : Option μ) (data : Bytes)
    (pieces : List Bytes) :
    drainStream duplicate emptyChunk description data
        (pieces.map fun piece => some (.data piece)) =
      .ok (description, data ++ pieces.flatten) := by
  induction pieces generalizing data with
  | nil => simp [drainStream]
  | cons piece rest ih =>
    cases description <;> simp [drainStream, ih, List.append_assoc]

/-- The descriptions that messages carry, in order. -/
def descriptions (messages : List (Message μ)) : List μ :=
  messages.filterMap fun message => message.bind fun
    | .metadata description => some description
    | .data _ => none

/-- The data that messages carry, put together. -/
def payload (messages : List (Message μ)) : Bytes :=
  messages.flatMap fun
    | some (.data bytes) => bytes
    | _ => []

/-- A client takes the messages that all carry something, with one description at most. -/
theorem drainStream_eq_ok {duplicate emptyChunk : Status} {received description : Option μ}
    {data whole : Bytes} {messages : List (Message μ)} :
    drainStream duplicate emptyChunk received data messages = .ok (description, whole) ↔
      none ∉ messages ∧ description.toList = received.toList ++ descriptions messages ∧
        whole = data ++ payload messages := by
  induction messages generalizing received data with
  | nil =>
    have lists : description.toList = received.toList ↔ received = description := by
      cases description <;> cases received <;> simp [eq_comm]
    simp [drainStream, descriptions, payload, lists, eq_comm]
  | cons message rest ih =>
    match message, received with
    | none, received => cases received <;> simp [drainStream]
    | some (.data bytes), received =>
      have step : drainStream duplicate emptyChunk received data (some (.data bytes) :: rest) =
          drainStream duplicate emptyChunk received (data ++ bytes) rest := by
        cases received <;> rfl
      rw [step, ih]
      simp [descriptions, payload]
    | some (.metadata first), none =>
      rw [drainStream, ih]
      simp [descriptions, payload]
    | some (.metadata second), some first =>
      -- A second description is refused, and two do not fit into an option.
      refine iff_of_false (fun accepted => by cases accepted) fun ⟨_, two, _⟩ => ?_
      have length := congrArg List.length two
      simp only [descriptions, List.filterMap_cons, Option.bind_some, Option.toList_some,
        List.length_append, List.length_cons] at length
      have one : description.toList.length ≤ 1 := by cases description <;> simp
      omega

end ColdStore
