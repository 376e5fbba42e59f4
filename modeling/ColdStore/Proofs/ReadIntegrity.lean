import ColdStore.Process.Sequential
import ColdStore.Scheduler.System

/-! What a read of a restored object checks, and what it does not. -/

namespace ColdStore.Scheduler

open Rust Process

/-- A stream with one description, nothing empty, and as many octets as described and recorded. -/
structure Accepted (obj : ObjectMetadata) (messages : List (Message CachedObjectMeta)) : Prop where
  filled : none ∉ messages
  described : ∃ description, descriptions messages = [description] ∧
    description.size = (payload messages).length
  size : obj.size = (payload messages).length

/-- A read puts together the data of an accepted stream. -/
theorem restoredBytes_eq_ok {obj : ObjectMetadata} {messages : List (Message CachedObjectMeta)}
    {data : Bytes} :
    restoredBytes obj messages = .ok data ↔ Accepted obj messages ∧ data = payload messages := by
  -- The checks in their order: the stream, its description, the two sizes.
  simp only [restoredBytes, bind_eq_ok, okOr_eq_ok, ensure_eq_ok, decide_eq_true_eq, Prod.exists,
    drainStream_eq_ok, List.nil_append, Option.toList_none]
  constructor
  · intro passed
    obtain ⟨received, whole, ⟨filled, listed, same⟩, description, there, _, described, _, size,
      result⟩ := passed
    subst same
    subst there
    cases result
    exact ⟨⟨filled, ⟨description, listed.symm, described⟩, size⟩, rfl⟩
  · intro accepts
    obtain ⟨accepted, same⟩ := accepts
    obtain ⟨description, listed, described⟩ := accepted.described
    subst same
    exact ⟨some description, payload messages, ⟨accepted.filled, listed.symm, rfl⟩, description, rfl,
      (), described, (), accepted.size, rfl⟩

section

variable {W : Type} (machine : Machine Call Reply W) {bucket key : String} {obj : ObjectMetadata}

/-- The call that a read of an object makes to the cache. -/
def cacheGet (obj : ObjectMetadata) : Call := .cache (.get ⟨obj.bucket, obj.key, obj.versionId⟩)

/-- What the services answer to a read: a record, and a stream for it. -/
structure Answers (w : W) (bucket key : String) (obj : ObjectMetadata)
    (messages : List (Message CachedObjectMeta)) (after : W) : Prop where
  headServed : machine.enabled (.metadata (.headObject bucket key)) w = true
  cacheServed : ∃ between, machine.serve (.metadata (.headObject bucket key)) w
      = (.ok obj, between) ∧ machine.enabled (cacheGet obj) between = true ∧
    machine.serve (cacheGet obj) between = (.ok messages, after)

variable {machine}

variable {w after : W}

/-- A program whose one call is served returns the answer. -/
theorem run_perform {c : Call} {answer : Reply c} (enabled : machine.enabled c w = true)
    (served : machine.serve c w = (answer, after)) :
    (Program.perform c : Program Call Reply (Reply c)).run machine w = some (answer, after) := by
  rw [Program.perform, Program.run, if_pos enabled, served, Program.run]

/-- A success stays the same when failures are reported as others. -/
theorem run_mapErr {ε δ α : Type} {change : ε → δ} {task : Task ε α} {value : α}
    (ran : task.run.run machine w = some (.ok value, after)) :
    (mapErr change task).run.run machine w = some (.ok value, after) := by
  have adapted : (mapErr change task).run =
      task.run >>= fun result => pure (result.mapError change) := rfl
  rw [adapted, Program.run_bind, ran, Option.bind_some]
  rfl

variable {messages : List (Message CachedObjectMeta)}

section

variable (answers : Answers machine w bucket key obj messages after)

include answers

/-- A read returns the data of the stream that it was answered, if it accepts record and stream. -/
theorem Answers.run_getObject (restored : validateRestored obj = .ok ()) :
    (getObject bucket key).run.run machine w =
      some ((restoredBytes obj messages).map (obj, ·), after) := by
  obtain ⟨between, head, enabled, streamed⟩ := answers.cacheServed
  -- The catalogue answers first, and the cache from what that leaves.
  have first : (headObject bucket key).run.run machine w = some (.ok obj, between) :=
    run_perform answers.headServed head
  have second : (askCache (.get ⟨obj.bucket, obj.key, obj.versionId⟩)).run.run machine
      between = some (.ok messages, after) := run_perform enabled streamed
  have third : (readRestoredObject obj).run.run machine between =
      some (restoredBytes obj messages, after) := by
    rw [readRestoredObject, ExceptT.run_bind, checked, ExceptT.run_mk, restored]
    simp only [Program.pure_eq, Program.bind_done]
    rw [ExceptT.run_bind, Program.run_bind, run_mapErr second, Option.bind_some]
    rfl
  rw [getObject, ExceptT.run_bind, Program.run_bind, first, Option.bind_some]
  dsimp only
  rw [ExceptT.run_bind, Program.run_bind, third, Option.bind_some]
  cases restoredBytes obj messages <;> rfl

/-- An object that has not been restored is not asked for. -/
theorem Answers.run_refused {status : Status} (refused : validateRestored obj = .error status) :
    ∃ between, (getObject bucket key).run.run machine w = some (.error status, between) := by
  obtain ⟨between, head, _⟩ := answers.cacheServed
  have first : (headObject bucket key).run.run machine w = some (.ok obj, between) :=
    run_perform answers.headServed head
  refine ⟨between, ?_⟩
  rw [getObject, ExceptT.run_bind, Program.run_bind, first, Option.bind_some]
  dsimp only
  rw [ExceptT.run_bind, Program.run_bind, readRestoredObject, ExceptT.run_bind, checked,
    ExceptT.run_mk, refused]
  rfl

/-- A read succeeds exactly if it accepts record and stream, with the data of the stream. -/
theorem Answers.returns_iff {read : ObjectMetadata} {data : Bytes} {later : W} :
    (getObject bucket key).run.run machine w = some (.ok (read, data), later) ↔
      validateRestored obj = .ok () ∧ Accepted obj messages ∧ read = obj ∧
        data = payload messages ∧ later = after := by
  -- Nothing is asked of the cache for an object that is not restored.
  cases restored : validateRestored obj with
  | error status =>
    obtain ⟨between, refused⟩ := answers.run_refused restored
    simp [refused]
  | ok _ =>
    rw [answers.run_getObject restored]
    cases collected : restoredBytes obj messages with
    | error status =>
      have unaccepted : ¬ Accepted obj messages := by
        intro accepted
        have taken := restoredBytes_eq_ok.mpr ⟨accepted, rfl⟩
        rw [collected] at taken
        cases taken
      simp [Except.map, unaccepted]
    | ok whole =>
      obtain ⟨accepted, rfl⟩ := restoredBytes_eq_ok.mp collected
      simp [Except.map, accepted, eq_comm, and_assoc]

end

/--
Whatever the cache streams, a read that succeeds returns as many octets as are recorded.

They have the recorded checksum, for a restored object and a stream that is accepted by its lengths,
exactly if the octets that were streamed have it: the checksum is not compared.
-/
theorem read_integrity_iff [Sha256] {w after : W} {messages : List (Message CachedObjectMeta)}
    (answers : Answers machine w bucket key obj messages after) :
    (∀ read data later, (getObject bucket key).run.run machine w =
        some (.ok (read, data), later) → data.length = read.size) ∧
    ((∀ read data later, (getObject bucket key).run.run machine w =
        some (.ok (read, data), later) →
        data.length = read.size ∧ checksumMatches read.checksum (sha256Hex data) = true) ↔
      (validateRestored obj = .ok () → Accepted obj messages →
        checksumMatches obj.checksum (sha256Hex (payload messages)) = true)) := by
  have sized : ∀ read data later, (getObject bucket key).run.run machine w =
      some (.ok (read, data), later) → data.length = read.size := by
    intro read data later returned
    obtain ⟨_, accepted, rfl, rfl, _⟩ := answers.returns_iff.mp returned
    exact accepted.size.symm
  -- What is returned is the payload of the stream, so its digest is all that is left open.
  refine ⟨sized, fun intact restored accepted => ?_, fun matched read data later returned => ?_⟩
  · exact (intact _ _ _ (answers.returns_iff.mpr ⟨restored, accepted, rfl, rfl, rfl⟩)).2
  · obtain ⟨restored, accepted, rfl, rfl, _⟩ := answers.returns_iff.mp returned
    exact ⟨accepted.size.symm, matched restored accepted⟩

end

/-- The digests of the letters a and b. -/
@[reducible] def letterDigests : Sha256 := .ofTable [
  ([97], shortDigests.digest [97]),
  ([98], #v[62, 35, 232, 22, 0, 57, 89, 74, 51, 137, 79, 101, 100, 225, 177, 52,
    139, 189, 122, 0, 136, 212, 44, 74, 203, 115, 238, 174, 213, 156, 0, 157])]

/-- The record of a restored object whose one octet is the letter a. -/
def restoredLetter : ObjectMetadata :=
  letI := letterDigests
  { bucket := "docs", key := "a", size := 1, checksum := sha256Hex [97]
    storageClass := StorageClass.cold.number
    restoreStatus := some RestoreStatus.restoreCompleted.number }

/-- A deployment with that record, and a cache that was given an octet for it. -/
def letterWorld (octet : UInt8) : World :=
  { World.fresh ["docs"] (2 ^ 30) oneDrive with
    metadata := { freshCatalogue ["docs"] with
      objects := .insert .empty restoredLetter.objectKey restoredLetter }
    cache := ((CacheService.even (2 ^ 30)).putRestored 0 (World.fresh [] (2 ^ 30) oneDrive).cache
      [some (.metadata ⟨"docs", "a", none, 1, none, none, none, some ⟨100, 0⟩⟩),
        some (.data [octet])]).2 }

/-- What the cache streams for the record. -/
def letterStream (octet : UInt8) : List (Message CachedObjectMeta) :=
  [some (.metadata ⟨1, some ⟨100, 0⟩, none, none, none⟩), some (.data [octet])]

/-- With the letter a in the cache, the read returns what was recorded. -/
theorem read_integrity_iff_letter :
    let _ := letterDigests
    ∃ data after, (getObject "docs" "a").run.run quietMachine
        (letterWorld 97) = some (.ok (restoredLetter, data), after) ∧
      data.length = 1 ∧ checksumMatches restoredLetter.checksum (sha256Hex data) = true := by
  let := letterDigests
  have answers : ∃ after, Answers quietMachine (letterWorld 97) "docs" "a"
      restoredLetter (letterStream 97) after := ⟨_, rfl, _, rfl, rfl, rfl⟩
  obtain ⟨after, answers⟩ := answers
  have accepted : Accepted restoredLetter (letterStream 97) := ⟨by decide, ⟨_, rfl, rfl⟩, rfl⟩
  have returned := answers.returns_iff.mpr ⟨rfl, accepted, rfl, rfl, rfl⟩
  have matched : checksumMatches restoredLetter.checksum (sha256Hex (payload (letterStream 97)))
      = true := by decide +kernel
  exact ⟨_, after, returned, (read_integrity_iff answers).2.mpr (fun _ _ => matched) _ _ _ returned⟩

/-- With the letter b in the cache, the read returns it for the letter a. -/
theorem wrong_letter_returned :
    let _ := letterDigests
    ((getObject "docs" "a").run.run quietMachine (letterWorld 98)).map
        Prod.fst = some (.ok (restoredLetter, [98])) ∧
      checksumMatches restoredLetter.checksum (sha256Hex [98]) = false := by
  decide +kernel

end ColdStore.Scheduler
