import ColdStore.Metadata.State
import ColdStore.Rust.Search
import ColdStore.Rust.Sort
import ColdStore.Rust.Word
import Mathlib.Order.WithBot

/-! The objects of a bucket, listed page by page in the order of their keys and versions. -/

namespace ColdStore

open Rust

/-- What a page is asked for with. -/
structure ListObjectsRequest where
  bucket : String
  keyPrefix : Option String
  marker : Option String
  maxKeys : UInt32
  deriving DecidableEq

/-- One page of objects. -/
structure ListObjectsResponse where
  objects : List ObjectMetadata
  nextMarker : Option String
  isTruncated : Bool
  deriving DecidableEq

/-- What objects are sorted by: the key, and for the same key the version. -/
def listingOrder (object : ObjectMetadata) : String ×ₗ WithBot String :=
  -- An object without a version comes before those that have one.
  toLex (object.key, object.versionId)

/-- The objects of a bucket whose keys have a beginning and lie behind a marker, in order. -/
def listedObjects (bucket keyPrefix marker : String) (objects : List ObjectMetadata) :
    List ObjectMetadata :=
  sortByKey listingOrder (objects.filter fun object =>
    object.bucket = bucket && startsWith object.key keyPrefix && decide (marker < object.key))

/-- How much a page may hold. Zero asks for everything. -/
def listLimit (maxKeys : UInt32) : Nat := if maxKeys = 0 then u64Max else maxKeys.toNat

/-- One page of the objects of a bucket. -/
def MetadataState.listObjects (s : MetadataState) (request : ListObjectsRequest) :
    Except Status ListObjectsResponse := do
  ensure (s.buckets.containsKey request.bucket) (.notFound ("bucket not found: " ++ request.bucket))
  let limit := listLimit request.maxKeys
  let objects := listedObjects request.bucket (request.keyPrefix.getD "")
    (request.marker.getD "") s.objects.values
  let isTruncated := decide (limit < objects.length)
  pure {
    objects := objects.take limit
    nextMarker := if isTruncated then objects[limit - 1]?.map ObjectMetadata.key else none
    isTruncated }

theorem listLimit_pos (maxKeys : UInt32) : 0 < listLimit maxKeys := by
  unfold listLimit
  split
  · decide
  · rename_i asked
    apply Nat.pos_of_ne_zero
    intro zero
    exact asked (UInt32.toNat_inj.mp zero)

/-- A number of keys that was asked for is the number a page may hold. -/
theorem listLimit_of_ne_zero {maxKeys : UInt32} (asked : maxKeys ≠ 0) :
    listLimit maxKeys = maxKeys.toNat := if_neg asked

/-- The limit of a page that was asked for is never taken for none at all. -/
theorem listLimit_ne_u64Max {maxKeys : UInt32} (asked : maxKeys ≠ 0) :
    listLimit maxKeys ≠ u64Max := by
  have small := maxKeys.toNat_lt
  rw [listLimit_of_ne_zero asked, u64Max]
  omega

variable (bucket keyPrefix marker : String) (objects : List ObjectMetadata)

/-- A listing is in the order of its keys. -/
theorem listedObjects_sorted :
    (listedObjects bucket keyPrefix marker objects).Pairwise fun left right =>
      left.key ≤ right.key := by
  apply (sortByKey_sorted listingOrder _).imp
  intro left right ordered
  rcases Prod.Lex.le_iff.mp ordered with less | ⟨same, _⟩
  · exact le_of_lt less
  · exact le_of_eq same

theorem mem_listedObjects {bucket keyPrefix marker : String} {objects : List ObjectMetadata}
    {object : ObjectMetadata} :
    object ∈ listedObjects bucket keyPrefix marker objects ↔ object ∈ objects ∧
      object.bucket = bucket ∧ startsWith object.key keyPrefix = true ∧ marker < object.key := by
  rw [listedObjects, (sortByKey_perm _ _).mem_iff, List.mem_filter]
  simp [and_assoc]

/-- The objects behind a marker are those of the whole listing that are behind it. -/
theorem listedObjects_behind :
    listedObjects bucket keyPrefix marker objects
      = (listedObjects bucket keyPrefix "" objects).filter fun object =>
          decide (marker < object.key) := by
  unfold listedObjects
  rw [filter_sortByKey, List.filter_filter]
  congr 1
  apply List.filter_congr
  intro object _
  -- What is behind a marker is behind the empty text.
  have least : "" ≤ marker := le_of_startsWith (by simp [startsWith])
  by_cases behind : marker < object.key
  · simp [behind, lt_of_le_of_lt least behind]
  · simp [behind]

/-- Listing the beginning of a listing again changes nothing. -/
theorem listedObjects_take (limit : Nat) :
    listedObjects bucket keyPrefix marker
        ((listedObjects bucket keyPrefix marker objects).take limit)
      = (listedObjects bucket keyPrefix marker objects).take limit := by
  -- A prefix of a listing passes the listing's own filter and is in its order already.
  have all : ((listedObjects bucket keyPrefix marker objects).take limit).filter (fun object =>
      object.bucket = bucket && startsWith object.key keyPrefix && decide (marker < object.key))
      = (listedObjects bucket keyPrefix marker objects).take limit := by
    apply List.filter_eq_self.mpr
    intro object mem
    obtain ⟨_, sameBucket, starts, behind⟩ := mem_listedObjects.mp (List.mem_of_mem_take mem)
    simp [sameBucket, starts, behind]
  have sorted : ((listedObjects bucket keyPrefix marker objects).take limit).Pairwise
      fun left right => listingOrder left ≤ listingOrder right :=
    (sortByKey_sorted listingOrder _).sublist (List.take_sublist limit _)
  rw [listedObjects, all, sortByKey, sorted.insertionSort_eq]

/-- A page of an existing bucket. -/
theorem MetadataState.listObjects_of_bucket {s : MetadataState} {request : ListObjectsRequest}
    (stored : s.buckets.containsKey request.bucket = true) :
    s.listObjects request = .ok (
      let objects := listedObjects request.bucket (request.keyPrefix.getD "")
        (request.marker.getD "") s.objects.values
      { objects := objects.take (listLimit request.maxKeys)
        nextMarker := if listLimit request.maxKeys < objects.length then
          objects[listLimit request.maxKeys - 1]?.map ObjectMetadata.key else none
        isTruncated := decide (listLimit request.maxKeys < objects.length) }) := by
  simp only [MetadataState.listObjects, ensure, stored, if_true, decide_eq_true_eq]
  rfl

end ColdStore
