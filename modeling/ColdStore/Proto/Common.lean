import ColdStore.Rust.Status
import Mathlib.Data.List.Basic

/-! Enumerations and records of `common.proto`, shared by every service. -/

namespace ColdStore

open Rust

/--
An enumeration of the wire format.

Fields hold plain integers, so a value is a member only when its number is one of the listed ones.
-/
class ProtoEnum (E : Type) where
  /-- Every member. -/
  all : List E
  /-- The number a member is sent as. -/
  number : E → Int
  /-- No member is missing from the list. -/
  listed : ∀ mem, mem ∈ all := by intro mem; cases mem <;> decide
  /-- No two members share a number. -/
  injective : ∀ left right, number left = number right → left = right := by
    intro left right; cases left <;> cases right <;> decide

/-- The member an integer field stands for. -/
def tryFrom (E : Type) [ProtoEnum E] (value : Int) : Option E :=
  (ProtoEnum.all (E := E)).find? fun mem => decide (ProtoEnum.number mem = value)

/-- Conversion succeeds exactly on the numbers of the members. -/
theorem tryFrom_eq_some {E : Type} [ProtoEnum E] {value : Int} {mem : E} :
    tryFrom E value = some mem ↔ value = ProtoEnum.number mem := by
  constructor
  · intro found
    have hit := List.find?_some found
    simpa using Eq.symm (of_decide_eq_true hit)
  · rintro rfl
    -- The search can stop only at a member with the same number, which is the member itself.
    cases found : tryFrom E (ProtoEnum.number mem) with
    | none =>
      have missed := List.find?_eq_none.mp found mem (ProtoEnum.listed mem)
      simp at missed
    | some other =>
      have hit := List.find?_some found
      rw [ProtoEnum.injective other mem (of_decide_eq_true hit)]

/-- The number of a member stands for the member. -/
@[simp] theorem tryFrom_number {E : Type} [ProtoEnum E] (mem : E) :
    tryFrom E (ProtoEnum.number mem) = some mem := tryFrom_eq_some.mpr rfl

/-- Where an object is in its life. -/
inductive StorageClass where
  | unspecified
  /-- Written, and queued to be archived. -/
  | coldPending
  /-- Archived to tape. -/
  | cold
  deriving DecidableEq

/-- How far a restore has come. -/
inductive RestoreStatus where
  | unspecified
  | restorePending
  | restoreWaitingForMedia
  | restoreInProgress
  | restoreCompleted
  | restoreExpired
  | restoreFailed
  deriving DecidableEq

/-- How urgent a restore is. -/
inductive RestoreTier where
  | unspecified
  | expedited
  | standard
  | bulk
  deriving DecidableEq

/-- Which kind of worker reports. -/
inductive WorkerType where
  | unspecified
  | workerScheduler
  | workerCache
  | workerTape
  deriving DecidableEq

/-- How far an archive bundle has come. -/
inductive ArchiveBundleStatus where
  | unspecified
  | bundlePending
  | bundleWriting
  | bundleCompleted
  | bundleFailed
  deriving DecidableEq

/-- How far an archive task has come. -/
inductive ArchiveTaskStatus where
  | unspecified
  | archiveTaskPending
  | archiveTaskInProgress
  | archiveTaskCompleted
  | archiveTaskFailed
  deriving DecidableEq

namespace StorageClass

def number : StorageClass → Int
  | .unspecified => 0
  | .coldPending => 1
  | .cold => 2

instance : ProtoEnum StorageClass where
  all := [.unspecified, .coldPending, .cold]
  number := number

end StorageClass

namespace RestoreStatus

def number : RestoreStatus → Int
  | .unspecified => 0
  | .restorePending => 1
  | .restoreWaitingForMedia => 2
  | .restoreInProgress => 3
  | .restoreCompleted => 4
  | .restoreExpired => 5
  | .restoreFailed => 6

instance : ProtoEnum RestoreStatus where
  all := [.unspecified, .restorePending, .restoreWaitingForMedia, .restoreInProgress,
    .restoreCompleted, .restoreExpired, .restoreFailed]
  number := number

end RestoreStatus

namespace RestoreTier

def number : RestoreTier → Int
  | .unspecified => 0
  | .expedited => 1
  | .standard => 2
  | .bulk => 3

instance : ProtoEnum RestoreTier where
  all := [.unspecified, .expedited, .standard, .bulk]
  number := number

end RestoreTier

namespace WorkerType

def number : WorkerType → Int
  | .unspecified => 0
  | .workerScheduler => 1
  | .workerCache => 2
  | .workerTape => 3

instance : ProtoEnum WorkerType where
  all := [.unspecified, .workerScheduler, .workerCache, .workerTape]
  number := number

end WorkerType

namespace ArchiveBundleStatus

def number : ArchiveBundleStatus → Int
  | .unspecified => 0
  | .bundlePending => 1
  | .bundleWriting => 2
  | .bundleCompleted => 3
  | .bundleFailed => 4

instance : ProtoEnum ArchiveBundleStatus where
  all := [.unspecified, .bundlePending, .bundleWriting, .bundleCompleted, .bundleFailed]
  number := number

end ArchiveBundleStatus

namespace ArchiveTaskStatus

def number : ArchiveTaskStatus → Int
  | .unspecified => 0
  | .archiveTaskPending => 1
  | .archiveTaskInProgress => 2
  | .archiveTaskCompleted => 3
  | .archiveTaskFailed => 4

instance : ProtoEnum ArchiveTaskStatus where
  all := [.unspecified, .archiveTaskPending, .archiveTaskInProgress, .archiveTaskCompleted,
    .archiveTaskFailed]
  number := number

end ArchiveTaskStatus

end ColdStore
