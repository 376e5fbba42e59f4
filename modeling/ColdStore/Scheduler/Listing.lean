import ColdStore.Paging.Chain
import ColdStore.Scheduler.Clients

/-! Listings as users see them, where keys that share a beginning up to a delimiter are one entry. -/

namespace ColdStore.Scheduler

open Rust Process

/-- One page of objects and common prefixes. -/
structure ListObjectsPage where
  objects : List ObjectMetadata
  commonPrefixes : List String
  nextMarker : Option String
  isTruncated : Bool
  deriving DecidableEq

/-- A page while it is being filled. -/
structure PageBuilder where
  emitted : Nat := 0
  lastEmittedKey : Option String := none
  contents : List ObjectMetadata := []
  commonPrefixes : List String := []
  prefixSet : List String := []
  isTruncated : Bool := false

/-- The part of a key up to the first delimiter behind the prefix, if there is one. -/
def candidatePrefix (keyPrefix delimiter key : String) : Option String :=
  if delimiter = "" then none
  else (stripPrefix key keyPrefix).bind fun suffix =>
    (find suffix delimiter).map fun position =>
      keyPrefix ++ takeChars suffix (position + delimiter.toList.length)

/-- Put objects on a page, each as itself or as its common prefix, until the page is full. -/
def fillPage (keyPrefix delimiter : String) (limit : Nat) :
    List ObjectMetadata → PageBuilder → PageBuilder
  | [], page => page
  | object :: rest, page =>
    if limit ≤ page.emitted then { page with isTruncated := true }
    else match candidatePrefix keyPrefix delimiter object.key with
      | some candidate =>
        if candidate ∈ page.prefixSet then fillPage keyPrefix delimiter limit rest page
        else fillPage keyPrefix delimiter limit rest { page with
          commonPrefixes := page.commonPrefixes ++ [candidate]
          prefixSet := candidate :: page.prefixSet
          emitted := page.emitted + 1
          lastEmittedKey := some candidate }
      | none => fillPage keyPrefix delimiter limit rest { page with
          contents := page.contents ++ [object]
          emitted := page.emitted + 1
          lastEmittedKey := some object.key }

/-- The page of some objects behind a marker. -/
def buildListObjectsPage (bucket : String) (objects : List ObjectMetadata)
    (keyPrefix marker delimiter : Option String) (maxKeys : UInt32) : ListObjectsPage :=
  let limit := listLimit maxKeys
  let filtered := listedObjects bucket (keyPrefix.getD "") (marker.getD "") objects
  let page := fillPage (keyPrefix.getD "") (delimiter.getD "") limit filtered {}
  { objects := page.contents
    commonPrefixes := page.commonPrefixes
    nextMarker := if page.isTruncated ∧ limit ≠ u64Max then page.lastEmittedKey else none
    isTruncated := page.isTruncated }

/-- One page of a bucket, made from one page of the metadata service. -/
def listObjects (bucket : String) (keyPrefix marker delimiter : Option String) (maxKeys : UInt32) :
    Task Status ListObjectsPage := do
  let response : ListObjectsResponse ←
    askMetadata (.listObjects ⟨bucket, keyPrefix, marker, maxKeys⟩)
  pure (buildListObjectsPage bucket response.objects keyPrefix marker delimiter maxKeys)

/-! Common prefixes are the groups of a listing. -/

section

variable {keyPrefix delimiter key candidate : String}

variable (found : candidatePrefix keyPrefix delimiter key = some candidate)

include found

/-- A key begins with its common prefix. -/
theorem candidatePrefix_eq_some :
    ∃ suffix position, delimiter ≠ "" ∧ key.toList = keyPrefix.toList ++ suffix ∧
      findChars delimiter.toList suffix = some position ∧
      candidate.toList = keyPrefix.toList ++ suffix.take (position + delimiter.toList.length) := by
  unfold candidatePrefix at found
  split at found
  · cases found
  · rename_i present
    simp only [Option.bind_eq_some_iff, Option.map_eq_some_iff] at found
    obtain ⟨suffix, stripped, position, at_, rfl⟩ := found
    unfold stripPrefix at stripped
    split at stripped
    · rename_i starts
      obtain ⟨rest, whole⟩ := startsWith_iff.mp starts
      obtain rfl := (Option.some.inj stripped).symm
      have dropped : key.toList.drop keyPrefix.toList.length = rest := by
        rw [← whole, List.drop_left]
      rw [dropped] at at_ ⊢
      exact ⟨rest, position, present, whole.symm, by simpa [find] using at_, by simp [takeChars]⟩
    · cases stripped

theorem startsWith_candidatePrefix : startsWith key candidate = true := by
  obtain ⟨suffix, position, _, whole, _, opens⟩ := candidatePrefix_eq_some found
  rw [startsWith_iff, whole, opens]
  exact (List.prefix_append_right_inj _).mpr (List.take_prefix _ suffix)

/-- Every key that begins with a common prefix has it. -/
theorem candidatePrefix_of_startsWith {other : String} (starts : startsWith other candidate = true)
    : candidatePrefix keyPrefix delimiter other = some candidate := by
  obtain ⟨suffix, position, present, _, at_, opens⟩ := candidatePrefix_eq_some found
  obtain ⟨rest, whole⟩ := startsWith_iff.mp starts
  have bound := findChars_bound at_
  have length : (suffix.take (position + delimiter.toList.length)).length
      = position + delimiter.toList.length := List.length_take_of_le bound
  -- What follows the common prefix does not move the first delimiter.
  have otherSuffix : other.toList = keyPrefix.toList ++
      (suffix.take (position + delimiter.toList.length) ++ rest) := by
    rw [← whole, opens, List.append_assoc]
  have stripped : stripPrefix other keyPrefix
      = some (String.ofList (suffix.take (position + delimiter.toList.length) ++ rest)) := by
    simp [stripPrefix, startsWith, otherSuffix]
  have located : find (String.ofList (suffix.take (position + delimiter.toList.length) ++ rest))
      delimiter = some position := by
    simpa [find] using findChars_take_append at_ rest
  have same : keyPrefix ++ takeChars (String.ofList (suffix.take (position +
      delimiter.toList.length) ++ rest)) (position + delimiter.toList.length) = candidate := by
    apply String.toList_inj.mp
    simp only [takeChars, String.toList_ofList, String.toList_append, opens]
    rw [List.take_left' length]
  simp only [candidatePrefix, if_neg present, stripped, Option.bind_some, located, Option.map_some,
    same]

end

/-- The common prefix that an object is listed under. -/
abbrev groupOf (keyPrefix delimiter : String) (object : ObjectMetadata) : Option String :=
  candidatePrefix keyPrefix delimiter object.key

/-- Common prefixes are intervals of keys. -/
theorem candidatePrefix_grouping (keyPrefix delimiter : String) :
    Paging.Grouping ObjectMetadata.key (groupOf keyPrefix delimiter) where
  front found := le_of_startsWith (startsWith_candidatePrefix found)
  between found lower upper := candidatePrefix_of_startsWith found
    (startsWith_of_between (startsWith_candidatePrefix found) lower upper)

/-! A page is filled with the entries of the listing. -/

open Paging

/-- A page has been filled with entries, and perhaps something was left past. -/
structure Filled (shown : List (ObjectMetadata ⊕ String)) (past : Bool) (page filled : PageBuilder) :
    Prop where
  contents : filled.contents = page.contents ++ items shown
  commonPrefixes : filled.commonPrefixes = page.commonPrefixes ++ groups shown
  lastEmittedKey : filled.lastEmittedKey
    = (shown.getLast?.map (label ObjectMetadata.key)).or page.lastEmittedKey
  isTruncated : filled.isTruncated = past

/-- The last of some entries, when one more was in front of them. -/
private theorem getLast?_label_cons (entry : ObjectMetadata ⊕ String)
    (shown : List (ObjectMetadata ⊕ String)) (last : Option String) :
    ((entry :: shown).getLast?.map (label ObjectMetadata.key)).or last
      = (shown.getLast?.map (label ObjectMetadata.key)).or
          (some (label ObjectMetadata.key entry)) := by
  rw [List.getLast?_cons]
  cases shown.getLast? <;> rfl

theorem fillPage_filled (keyPrefix delimiter : String) (limit : Nat) (list : List ObjectMetadata)
    (page : PageBuilder) (open_ : page.isTruncated = false) :
    Filled ((entries (groupOf keyPrefix delimiter) page.prefixSet
        list).take (limit - page.emitted))
      (overflows (groupOf keyPrefix delimiter) page.prefixSet (limit - page.emitted) list)
      page (fillPage keyPrefix delimiter limit list page) := by
  induction list generalizing page with
  | nil => exact ⟨by simp [fillPage, entries], by simp [fillPage, entries],
      by simp [fillPage, entries], by simp [fillPage, open_]⟩
  | cons object rest ih =>
    rw [fillPage]
    split
    · -- The page is full, and this object is left over.
      rename_i full
      rw [Nat.sub_eq_zero_of_le full]
      exact ⟨by simp, by simp, by simp, by simp [overflows]⟩
    · rename_i room
      have left : 0 < limit - page.emitted := by omega
      have fewer : limit - page.emitted = limit - (page.emitted + 1) + 1 := by omega
      rw [overflows_cons _ left, entries]
      split
      · rename_i candidate found
        have marked : (groupOf keyPrefix delimiter) object = some candidate := found
        split
        · -- A common prefix that is on the page already takes no place.
          rename_i old
          have same : ∀ group, group ∈ page.prefixSet ++ [candidate] ↔ group ∈ page.prefixSet := by
            intro group
            rw [List.mem_append, List.mem_singleton]
            exact or_iff_left_of_imp fun equal => equal ▸ old
          rw [shown_of_mem marked old, marked, Option.toList_some, List.nil_append,
            entries_congr same, overflows_congr _ same]
          exact ih page open_
        · rename_i fresh
          have same : ∀ group, group ∈ page.prefixSet ++ [candidate] ↔
              group ∈ candidate :: page.prefixSet := by
            intro group
            rw [List.mem_append, List.mem_singleton, List.mem_cons, or_comm]
          rw [shown_of_not_mem marked fresh, marked, Option.toList_some, List.singleton_append, fewer,
            List.take_succ_cons, entries_congr same, overflows_congr _ same]
          have tail := ih { page with
            commonPrefixes := page.commonPrefixes ++ [candidate]
            prefixSet := candidate :: page.prefixSet
            emitted := page.emitted + 1
            lastEmittedKey := some candidate } open_
          refine ⟨?_, ?_, ?_, ?_⟩
          · simpa using tail.contents
          · simpa using tail.commonPrefixes
          · rw [getLast?_label_cons]
            exact tail.lastEmittedKey
          · simpa using tail.isTruncated
      · rename_i found
        have plain : (groupOf keyPrefix delimiter) object = none := found
        rw [shown_of_none plain, plain, Option.toList_none, List.append_nil, List.singleton_append,
          fewer, List.take_succ_cons]
        have tail := ih { page with
          contents := page.contents ++ [object]
          emitted := page.emitted + 1
          lastEmittedKey := some object.key } open_
        refine ⟨?_, ?_, ?_, ?_⟩
        · simpa using tail.contents
        · simpa using tail.commonPrefixes
        · rw [getLast?_label_cons]
          exact tail.lastEmittedKey
        · simpa using tail.isTruncated

/-- A page as users see it. -/
def userPage (limit : Nat) (page : Page ObjectMetadata String) : ListObjectsPage where
  objects := items page.entries
  commonPrefixes := groups page.entries
  nextMarker := if page.truncated ∧ limit ≠ u64Max then
    page.entries.getLast?.map (label ObjectMetadata.key) else none
  isTruncated := page.truncated

/-- A page is the first page of the listing behind the marker. -/
theorem buildListObjectsPage_eq (bucket : String) (objects : List ObjectMetadata)
    (keyPrefix marker delimiter : Option String) (maxKeys : UInt32) :
    buildListObjectsPage bucket objects keyPrefix marker delimiter maxKeys
      = userPage (listLimit maxKeys)
          (page (groupOf (keyPrefix.getD "") (delimiter.getD ""))
            (listLimit maxKeys)
            (listedObjects bucket (keyPrefix.getD "") (marker.getD "") objects)) := by
  have filled := fillPage_filled (keyPrefix.getD "") (delimiter.getD "") (listLimit maxKeys)
    (listedObjects bucket (keyPrefix.getD "") (marker.getD "") objects) {} rfl
  simp only [buildListObjectsPage, userPage, page, filled.contents, filled.commonPrefixes,
    filled.lastEmittedKey, filled.isTruncated, List.nil_append, Option.or_none, Nat.sub_zero]
  rfl

end ColdStore.Scheduler
