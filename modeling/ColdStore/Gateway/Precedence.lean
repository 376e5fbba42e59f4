import ColdStore.Gateway.Preconditions
import Mathlib.Data.Fintype.Option

/-! The order in which the conditions of a request are evaluated by the protocol and here. -/

namespace ColdStore

open Rust

/-- What becomes of a request for an object once its conditions are evaluated. -/
inductive Decision where
  | perform
  | preconditionFailed
  | notModified
  deriving DecidableEq

/-- Whether each condition of a request holds of the object, for those that the request has. -/
structure Conditions where
  ifMatch : Option Bool
  ifUnmodifiedSince : Option Bool
  ifNoneMatch : Option Bool
  ifModifiedSince : Option Bool

/-- The decision of RFC 7232, section 6, for a request that reads. -/
def Conditions.precedence (conditions : Conditions) : Decision :=
  -- A date is consulted only in place of an absent list of tags.
  let current := conditions.ifMatch.orElse fun _ => conditions.ifUnmodifiedSince
  let changed := conditions.ifNoneMatch.orElse fun _ => conditions.ifModifiedSince
  if current = some false then .preconditionFailed
  else if changed = some false then .notModified
  else .perform

/-- The decision when every condition of the request has to hold. -/
def Conditions.every (conditions : Conditions) : Decision :=
  if conditions.ifMatch = some false ∨ conditions.ifUnmodifiedSince = some false then
    .preconditionFailed
  else if conditions.ifNoneMatch = some false ∨ conditions.ifModifiedSince = some false then
    .notModified
  else .perform

/-- The conditions of a request with the given dates, for an object with a tag and a date. -/
def ReadHeaders.conditions (headers : ReadHeaders) (unmodifiedSince modifiedSince : Option Int)
    (etag : String) (modifiedAt : Int) : Conditions where
  ifMatch := headers.ifMatch.map fun value => etagHeaderMatches value etag
  ifUnmodifiedSince := unmodifiedSince.map fun since => decide (modifiedAt ≤ since)
  ifNoneMatch := headers.ifNoneMatch.map fun value => !etagHeaderMatches value etag
  ifModifiedSince := modifiedSince.map fun since => decide (since < modifiedAt)

/-- The decision a response stands for, where no response lets the request through. -/
def decided : Option Response → Option Decision
  | none => some .perform
  | some response =>
    if response.status = 412 then some .preconditionFailed
    else if response.status = 304 then some .notModified
    else none

@[simp] theorem decided_preconditionFailed (message resource : String) :
    decided (some (preconditionFailedResponse message resource)) = some .preconditionFailed := rfl

@[simp] theorem decided_notModified (resource etag : String) :
    decided (some (notModifiedResponse resource etag)) = some .notModified := rfl

/-- The two orders differ where a date fails although the list of tags in its place holds. -/
theorem Conditions.every_eq_precedence_iff (conditions : Conditions) :
    conditions.every = conditions.precedence ↔
      ¬ (conditions.ifMatch = some true ∧ conditions.ifUnmodifiedSince = some false) ∧
      ¬ (conditions.ifNoneMatch = some true ∧ conditions.ifModifiedSince = some false ∧
        conditions.ifMatch ≠ some false ∧ conditions.ifUnmodifiedSince ≠ some false) := by
  obtain ⟨ifMatch, ifUnmodifiedSince, ifNoneMatch, ifModifiedSince⟩ := conditions
  -- Three values of each condition, and nothing else enters either decision.
  revert ifMatch ifUnmodifiedSince ifNoneMatch ifModifiedSince
  decide

section Checks

variable (headers : ReadHeaders) (unmodifiedSince modifiedSince : Option Int)
variable (etag resource : String) (modifiedAt : Int)

theorem checkIfMatch_eq :
    checkIfMatch headers.ifMatch etag resource =
      if (headers.conditions unmodifiedSince modifiedSince etag modifiedAt).ifMatch = some false
      then some (preconditionFailedResponse "If-Match" resource) else none := by
  cases given : headers.ifMatch <;> simp [checkIfMatch, ReadHeaders.conditions, given]

theorem checkIfUnmodifiedSince_eq :
    checkIfUnmodifiedSince unmodifiedSince (some modifiedAt) resource = .ok
      (if (headers.conditions unmodifiedSince modifiedSince etag modifiedAt).ifUnmodifiedSince
        = some false
      then some (preconditionFailedResponse "If-Unmodified-Since failed" resource) else none) := by
  cases unmodifiedSince with
  | none => simp [checkIfUnmodifiedSince, ReadHeaders.conditions]
  | some since =>
    by_cases later : since < modifiedAt
    · simp [checkIfUnmodifiedSince, ReadHeaders.conditions, later]
    · simp [checkIfUnmodifiedSince, ReadHeaders.conditions, later]

theorem checkIfNoneMatch_eq :
    checkIfNoneMatch headers.ifNoneMatch etag resource =
      if (headers.conditions unmodifiedSince modifiedSince etag modifiedAt).ifNoneMatch = some false
      then some (notModifiedResponse resource etag) else none := by
  cases given : headers.ifNoneMatch <;> simp [checkIfNoneMatch, ReadHeaders.conditions, given]

theorem checkIfModifiedSince_eq :
    checkIfModifiedSince modifiedSince (some modifiedAt) etag resource = .ok
      (if (headers.conditions unmodifiedSince modifiedSince etag modifiedAt).ifModifiedSince
        = some false
      then some (notModifiedResponse resource etag) else none) := by
  cases modifiedSince with
  | none => simp [checkIfModifiedSince, ReadHeaders.conditions]
  | some since =>
    by_cases earlier : modifiedAt ≤ since
    · simp [checkIfModifiedSince, ReadHeaders.conditions, earlier]
    · simp [checkIfModifiedSince, ReadHeaders.conditions, earlier]

end Checks

/-- The gateway lets a request through when every condition it has holds. -/
theorem checkReadPreconditions_decided {date : String → Option Int} {headers : ReadHeaders}
    {resource : String} {head : HeadObjectResponse} {modified : Timestamp}
    {modifiedSince unmodifiedSince : Option Int}
    (modifiedReads : readDate date headers.ifModifiedSince "invalid If-Modified-Since header"
      = .ok modifiedSince)
    (unmodifiedReads : readDate date headers.ifUnmodifiedSince "invalid If-Unmodified-Since header"
      = .ok unmodifiedSince) (dated : head.lastModified = some modified) :
    ∃ answer, checkReadPreconditions date headers resource (.ok head) = .ok answer ∧
      decided answer = some
        (headers.conditions unmodifiedSince modifiedSince head.etag modified.seconds).every := by
  have modifiedAt : head.lastModified.map timestampFromProstTimestamp = some modified.seconds := by
    simp [dated, timestampFromProstTimestamp]
  unfold checkReadPreconditions
  simp only [modifiedReads, unmodifiedReads, modifiedAt, Bind.bind, Except.bind]
  by_cases unconditional : (headers.ifMatch.isNone && headers.ifNoneMatch.isNone
      && modifiedSince.isNone && unmodifiedSince.isNone) = true
  · rw [if_pos unconditional]
    simp only [Bool.and_eq_true, Option.isNone_iff_eq_none] at unconditional
    obtain ⟨⟨⟨noMatch, noNoneMatch⟩, rfl⟩, rfl⟩ := unconditional
    refine ⟨none, rfl, ?_⟩
    simp [decided, Conditions.every, ReadHeaders.conditions, noMatch, noNoneMatch]
  · rw [if_neg unconditional,
      checkIfMatch_eq headers unmodifiedSince modifiedSince _ _ modified.seconds,
      checkIfNoneMatch_eq headers unmodifiedSince modifiedSince _ _ modified.seconds,
      checkIfUnmodifiedSince_eq headers unmodifiedSince modifiedSince head.etag,
      checkIfModifiedSince_eq headers unmodifiedSince]
    -- From here on only the truth of the four conditions matters, in the order of the checks.
    generalize headers.conditions unmodifiedSince modifiedSince head.etag modified.seconds
      = conditions
    by_cases mismatch : conditions.ifMatch = some false
    · simp [mismatch, Conditions.every, Pure.pure, Except.pure]
    by_cases later : conditions.ifUnmodifiedSince = some false
    · simp [mismatch, later, Conditions.every, Pure.pure, Except.pure]
    by_cases listed : conditions.ifNoneMatch = some false
    · simp [mismatch, later, listed, Conditions.every, Pure.pure, Except.pure]
    by_cases unchanged : conditions.ifModifiedSince = some false
    · simp [mismatch, later, listed, unchanged, Conditions.every]
    · simp [mismatch, later, listed, unchanged, Conditions.every, decided]

end ColdStore
