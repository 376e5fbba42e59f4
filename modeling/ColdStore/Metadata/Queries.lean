import ColdStore.Metadata.State

/-! The procedures of `MetadataService` that read the catalogue for the scheduler. -/

namespace ColdStore.MetadataState

open Rust

variable (s : MetadataState)

/-- The latest version of an object. -/
def getObject (bucket key : String) : Except Status ObjectMetadata := findObject s bucket key none

/-- The latest version of an object, under a second name. -/
def headObject (bucket key : String) : Except Status ObjectMetadata := findObject s bucket key none

def getBucket (name : String) : Except Status BucketInfo :=
  okOr (.notFound ("bucket not found: " ++ name)) (s.buckets.get name)

def getArchiveTask (id : String) : Except Status ArchiveTask :=
  okOr (.notFound "archive task not found") (s.archiveTasks.get id)

def getRecallTask (id : String) : Except Status RecallTask :=
  okOr (.notFound "recall task not found") (s.recallTasks.get id)

/-- The recall tasks that wait to be claimed, in the order the map lists them. -/
def listPendingRecallTasks : List RecallTask :=
  s.recallTasks.values.filter fun task => isPendingRestoreStatus task.status

end ColdStore.MetadataState
