import ColdStore.Paging.Merge
import ColdStore.Proofs.Listing

/-! What is on a page of a listing: the beginning of the listing of everything. -/

namespace ColdStore.Scheduler

open Rust Paging

/-! Common prefixes are the shortest texts that reach from the prefix to a delimiter. -/

/-- A key begins with a text that goes on behind the prefix and ends with a delimiter. -/
def Extends (keyPrefix delimiter key extension : String) : Prop :=
  startsWith key extension = true ∧ ∃ middle, extension = keyPrefix ++ middle ++ delimiter

/-- No shorter text does. -/
structure IsShortestExtension (keyPrefix delimiter key extension : String) : Prop where
  reaches : Extends keyPrefix delimiter key extension
  shortest : ∀ other, Extends keyPrefix delimiter key other →
    extension.toList.length ≤ other.toList.length

section

variable {keyPrefix delimiter key extension : String}

/-- Such a text is given by an occurrence of the delimiter behind the prefix. -/
theorem Extends.occurrence (reaches : Extends keyPrefix delimiter key extension) :
    ∃ suffix position, key.toList = keyPrefix.toList ++ suffix ∧
      delimiter.toList <+: suffix.drop position ∧
      extension.toList.length = keyPrefix.toList.length + position + delimiter.toList.length := by
  obtain ⟨starts, middle, rfl⟩ := reaches
  obtain ⟨rest, whole⟩ := startsWith_iff.mp starts
  refine ⟨middle.toList ++ (delimiter.toList ++ rest), middle.toList.length, ?_, ?_, ?_⟩
  · rw [← whole]
    simp [String.toList_append, List.append_assoc]
  · rw [List.drop_left]
    exact List.prefix_append _ rest
  · simp [String.toList_append, Nat.add_assoc]

/-- A common prefix reaches to a delimiter, and to the first one. -/
theorem isShortestExtension_of_candidatePrefix
    (found : candidatePrefix keyPrefix delimiter key = some extension) :
    IsShortestExtension keyPrefix delimiter key extension := by
  obtain ⟨suffix, position, _, whole, at_, opens⟩ := candidatePrefix_eq_some found
  obtain ⟨_, ⟨rest, occurs⟩, first⟩ := findChars_eq_some_iff.mp at_
  have bound := findChars_bound at_
  refine ⟨⟨startsWith_candidatePrefix found, String.ofList (suffix.take position), ?_⟩, ?_⟩
  · apply String.toList_inj.mp
    rw [opens, List.take_add, ← occurs, List.take_left]
    simp [String.toList_append, List.append_assoc]
  · intro other reaches
    obtain ⟨suffix', place, whole', occurs', length⟩ := reaches.occurrence
    obtain rfl : suffix = suffix' := List.append_cancel_left (whole.symm.trans whole')
    -- An occurrence further in front would have been found.
    have behind : position ≤ place := by
      by_contra before
      exact first place (by omega) occurs'
    rw [length, opens, List.length_append, List.length_take_of_le bound]
    omega

/-- A key without a common prefix has no delimiter behind the prefix. -/
theorem not_extends_of_candidatePrefix_eq_none (present : delimiter ≠ "")
    (plain : candidatePrefix keyPrefix delimiter key = none) :
    ¬ Extends keyPrefix delimiter key extension := by
  intro reaches
  obtain ⟨suffix, position, whole, occurs, _⟩ := reaches.occurrence
  have stripped : stripPrefix key keyPrefix = some (String.ofList suffix) := by
    simp [stripPrefix, startsWith, whole]
  simp only [candidatePrefix, if_neg present, stripped, Option.bind_some, Option.map_eq_none_iff,
    find, String.toList_ofList] at plain
  exact findChars_eq_none plain position occurs

/-- Texts of one length at the beginning of a key are the same. -/
theorem IsShortestExtension.unique {other : String}
    (left : IsShortestExtension keyPrefix delimiter key extension)
    (right : IsShortestExtension keyPrefix delimiter key other) : extension = other := by
  have length := Nat.le_antisymm (left.shortest other right.reaches)
    (right.shortest extension left.reaches)
  apply String.toList_inj.mp
  have opens := List.prefix_of_prefix_length_le (startsWith_iff.mp left.reaches.1)
    (startsWith_iff.mp right.reaches.1) length.le
  exact opens.eq_of_length length

theorem candidatePrefix_iff (present : delimiter ≠ "") :
    candidatePrefix keyPrefix delimiter key = some extension ↔
      IsShortestExtension keyPrefix delimiter key extension := by
  refine ⟨isShortestExtension_of_candidatePrefix, fun shortest => ?_⟩
  cases found : candidatePrefix keyPrefix delimiter key with
  | none => exact absurd shortest.reaches (not_extends_of_candidatePrefix_eq_none present found)
  | some other => rw [(isShortestExtension_of_candidatePrefix found).unique shortest]

end

/-- The delimiter occurs in a key behind the prefix, if there is a delimiter. -/
def Grouped (keyPrefix delimiter key : String) : Prop :=
  delimiter ≠ "" ∧ ∃ extension, Extends keyPrefix delimiter key extension

theorem candidatePrefix_eq_none_iff {keyPrefix delimiter key : String} :
    candidatePrefix keyPrefix delimiter key = none ↔ ¬ Grouped keyPrefix delimiter key := by
  constructor
  · intro plain ⟨present, extension, reaches⟩
    exact not_extends_of_candidatePrefix_eq_none present plain reaches
  · intro ungrouped
    cases found : candidatePrefix keyPrefix delimiter key with
    | none => rfl
    | some extension =>
      obtain ⟨_, _, present, _⟩ := candidatePrefix_eq_some found
      exact absurd ⟨present, extension, (isShortestExtension_of_candidatePrefix found).reaches⟩
        ungrouped

/-! Pages of objects that are alone under their keys. -/

/-- An object is asked for: its bucket, and keys with the prefix behind the marker. -/
def Matches (bucket : String) (keyPrefix marker : Option String) (obj : ObjectMetadata) : Prop :=
  obj.bucket = bucket ∧ startsWith obj.key (keyPrefix.getD "") = true ∧ marker.getD "" < obj.key

theorem listedObjects_bucket (bucket keyPrefix marker : String) (objects : List ObjectMetadata) :
    listedObjects bucket keyPrefix marker (objects.filter fun obj => obj.bucket = bucket) =
      listedObjects bucket keyPrefix marker objects := by
  unfold listedObjects
  rw [List.filter_filter]
  congr 1
  refine List.filter_congr fun obj _ => ?_
  by_cases same : obj.bucket = bucket <;> simp [same]

/-- Objects that are alone under bucket and key are listed in the strict order of their keys. -/
theorem listedObjects_strict_of_single {objects : List ObjectMetadata}
    (single : (objects.map fun obj => (obj.bucket, obj.key)).Nodup)
    (bucket keyPrefix marker : String) :
    (listedObjects bucket keyPrefix marker objects).Pairwise fun left right =>
      left.key < right.key := by
  have pairs : ((objects.filter fun obj => obj.bucket = bucket).map fun obj =>
      (obj.bucket, obj.key)).Nodup := single.sublist (List.filter_sublist.map _)
  -- Inside one bucket the pairs of bucket and key are told apart by their keys.
  have constant : ((objects.filter fun obj => obj.bucket = bucket).map fun obj =>
      (obj.bucket, obj.key)) = ((objects.filter fun obj => obj.bucket = bucket).map
        ObjectMetadata.key).map fun key => (bucket, key) := by
    rw [List.map_map]
    refine List.map_congr_left fun obj mem => ?_
    rw [Function.comp_apply, of_decide_eq_true (List.mem_filter.mp mem).2]
  rw [constant] at pairs
  rw [← listedObjects_bucket]
  exact listedObjects_strict pairs.of_map bucket keyPrefix marker

theorem length_listedObjects_le (bucket keyPrefix marker : String) (objects : List ObjectMetadata) :
    (listedObjects bucket keyPrefix marker objects).length ≤ objects.length := by
  rw [listedObjects, (sortByKey_perm _ _).length_eq]
  exact List.length_filter_le _ _

section

variable {bucket : String} {objects : List ObjectMetadata} {keyPrefix marker delimiter : Option String}

/-- The entries of the listing of everything that is asked for. -/
def listingEntries (bucket : String) (objects : List ObjectMetadata)
    (keyPrefix marker delimiter : Option String) : List (ObjectMetadata ⊕ String) :=
  entries (groupOf (keyPrefix.getD "") (delimiter.getD "")) []
    (listedObjects bucket (keyPrefix.getD "") (marker.getD "") objects)

/-- Without a limit, a page has all entries. -/
theorem fullPage_eq (held : objects.length ≤ u64Max) :
    buildListObjectsPage bucket objects keyPrefix marker delimiter 0 =
      ⟨items (listingEntries bucket objects keyPrefix marker delimiter),
        groups (listingEntries bucket objects keyPrefix marker delimiter), none, false⟩ := by
  have few :=
    (length_listedObjects_le bucket (keyPrefix.getD "") (marker.getD "") objects).trans held
  have entriesFew := (length_entries_le (groupOf (keyPrefix.getD "") (delimiter.getD "")) []
    (listedObjects bucket (keyPrefix.getD "") (marker.getD "") objects)).trans few
  have limit : listLimit 0 = u64Max := rfl
  rw [buildListObjectsPage_eq, limit, userPage, page, List.take_of_length_le entriesFew,
    overflows_eq_false_of_length_le _ few]
  simp [listingEntries]

/-- A limited page has the first entries. -/
theorem limitedPage_entries {maxKeys : UInt32} (asked : maxKeys ≠ 0) :
    (buildListObjectsPage bucket objects keyPrefix marker delimiter maxKeys).objects =
        items ((listingEntries bucket objects keyPrefix marker delimiter).take maxKeys.toNat) ∧
      (buildListObjectsPage bucket objects keyPrefix marker delimiter maxKeys).commonPrefixes =
        groups ((listingEntries bucket objects keyPrefix marker delimiter).take maxKeys.toNat) := by
  rw [buildListObjectsPage_eq, listLimit_of_ne_zero asked]
  exact ⟨rfl, rfl⟩

/-- A page says where to go on exactly if it was cut off. -/
theorem nextMarker_isSome_iff {maxKeys : UInt32} (asked : maxKeys ≠ 0) :
    (buildListObjectsPage bucket objects keyPrefix marker delimiter maxKeys).nextMarker.isSome ↔
      (buildListObjectsPage bucket objects keyPrefix marker delimiter maxKeys).isTruncated := by
  rw [buildListObjectsPage_eq]
  have positive := listLimit_pos maxKeys
  have limited := listLimit_ne_u64Max asked
  cases past : overflows (groupOf (keyPrefix.getD "") (delimiter.getD "")) [] (listLimit maxKeys)
      (listedObjects bucket (keyPrefix.getD "") (marker.getD "") objects) with
  | false => simp [userPage, page, past]
  | true =>
    -- A page that leaves something past is full, so it has a last entry.
    obtain ⟨before, item, after, split, left, _, filled⟩ :=
      exists_split_of_overflows _ positive past
    have whole := page_of_split _ left filled
    have last :
        entries (groupOf (keyPrefix.getD "") (delimiter.getD "")) [] (before ++ [item]) ≠ [] := by
      intro empty
      rw [empty, List.length_nil] at filled
      omega
    rw [split, whole]
    simp [userPage, limited, List.getLast?_eq_some_getLast last]

theorem listingEntries_increasing (single : (objects.map fun obj => (obj.bucket, obj.key)).Nodup) :
    (listingEntries bucket objects keyPrefix marker delimiter).Pairwise fun left right =>
      label ObjectMetadata.key left < label ObjectMetadata.key right :=
  entries_increasing (candidatePrefix_grouping _ _)
    (listedObjects_strict_of_single single bucket (keyPrefix.getD "") (marker.getD ""))

theorem mem_items_listingEntries {obj : ObjectMetadata} :
    obj ∈ items (listingEntries bucket objects keyPrefix marker delimiter) ↔
      obj ∈ objects ∧ Matches bucket keyPrefix marker obj ∧
        ¬ Grouped (keyPrefix.getD "") (delimiter.getD "") obj.key := by
  rw [listingEntries, items_entries, List.mem_filter, mem_listedObjects, and_assoc, Matches,
    Option.isNone_iff_eq_none, candidatePrefix_eq_none_iff]

theorem mem_groups_listingEntries {name : String} :
    name ∈ groups (listingEntries bucket objects keyPrefix marker delimiter) ↔
      ∃ obj ∈ objects, Matches bucket keyPrefix marker obj ∧ delimiter.getD "" ≠ "" ∧
        IsShortestExtension (keyPrefix.getD "") (delimiter.getD "") obj.key name := by
  rw [listingEntries, mem_groups_entries, List.mem_filterMap]
  constructor
  · intro ⟨_, obj, mem, marked⟩
    obtain ⟨inside, matches_⟩ := mem_listedObjects.mp mem
    obtain ⟨_, _, present, _⟩ := candidatePrefix_eq_some marked
    exact ⟨obj, inside, matches_, present, (candidatePrefix_iff present).mp marked⟩
  · intro ⟨obj, inside, matches_, present, shortest⟩
    exact ⟨List.not_mem_nil, obj, mem_listedObjects.mpr ⟨inside, matches_⟩,
      (candidatePrefix_iff present).mpr shortest⟩

end

/--
A page of at most so many entries is the beginning of the listing without a limit, in which objects
and common prefixes are merged in order, and it says where to go on if it was cut off.

That listing shows every object that is asked for as itself, unless the delimiter occurs in its key
behind the prefix, and otherwise as the shortest text from the prefix to a delimiter. Nothing else
is shown, the entries are in strict order, and no common prefix is repeated.
-/
theorem page_is_front_of_listing (bucket : String) (objects : List ObjectMetadata)
    (single : (objects.map fun obj => (obj.bucket, obj.key)).Nodup)
    (held : objects.length ≤ u64Max) (keyPrefix marker delimiter : Option String) :
    let full := buildListObjectsPage bucket objects keyPrefix marker delimiter 0
    let listing := merged ObjectMetadata.key full.objects full.commonPrefixes
    (∀ maxKeys : UInt32, maxKeys ≠ 0 →
      let page := buildListObjectsPage bucket objects keyPrefix marker delimiter maxKeys
      page.objects = items (listing.take maxKeys.toNat) ∧
        page.commonPrefixes = groups (listing.take maxKeys.toNat) ∧
        (page.nextMarker.isSome ↔ page.isTruncated)) ∧
    (∀ obj, obj ∈ full.objects ↔ obj ∈ objects ∧ Matches bucket keyPrefix marker obj ∧
      ¬ Grouped (keyPrefix.getD "") (delimiter.getD "") obj.key) ∧
    (∀ obj ∈ objects, Matches bucket keyPrefix marker obj →
      Grouped (keyPrefix.getD "") (delimiter.getD "") obj.key →
      ∃ name ∈ full.commonPrefixes,
        IsShortestExtension (keyPrefix.getD "") (delimiter.getD "") obj.key name) ∧
    (∀ name ∈ full.commonPrefixes, ∃ obj ∈ objects, Matches bucket keyPrefix marker obj ∧
      IsShortestExtension (keyPrefix.getD "") (delimiter.getD "") obj.key name) ∧
    (listing.Pairwise fun left right =>
      label ObjectMetadata.key left < label ObjectMetadata.key right) ∧
    full.commonPrefixes.Nodup ∧ full.nextMarker = none ∧ full.isTruncated = false := by
  have increasing := @listingEntries_increasing bucket objects keyPrefix marker delimiter single
  rw [fullPage_eq held]
  dsimp only
  -- Both groups of the full page put together again are the entries every page is cut from.
  rw [merged_eq increasing]
  refine ⟨fun maxKeys asked => ?_, fun obj => mem_items_listingEntries, ?_, ?_, increasing,
    groups_entries_nodup _ _ _, rfl, rfl⟩
  · obtain ⟨shownObjects, shownPrefixes⟩ := @limitedPage_entries bucket objects keyPrefix marker
      delimiter maxKeys asked
    exact ⟨shownObjects, shownPrefixes, nextMarker_isSome_iff asked⟩
  · intro obj mem matches_ grouped
    cases found : candidatePrefix (keyPrefix.getD "") (delimiter.getD "") obj.key with
    | none => exact absurd grouped (candidatePrefix_eq_none_iff.mp found)
    | some name =>
      have shortest := isShortestExtension_of_candidatePrefix found
      exact ⟨name, mem_groups_listingEntries.mpr ⟨obj, mem, matches_, grouped.1, shortest⟩,
        shortest⟩
  · intro name shown
    obtain ⟨obj, mem, matches_, _, shortest⟩ := mem_groups_listingEntries.mp shown
    exact ⟨obj, mem, matches_, shortest⟩

/-- A key behind a folder is listed as the folder. -/
theorem page_is_front_of_listing_folder :
    ∃ name ∈ (buildListObjectsPage "docs" [emptyObject "b" none, emptyObject "a/1" none] none none
      (some "/") 0).commonPrefixes, IsShortestExtension "" "/" "a/1" name := by
  obtain ⟨_, _, grouped, _⟩ := page_is_front_of_listing "docs"
    [emptyObject "b" none, emptyObject "a/1" none] (by decide) (by decide) none none (some "/")
  have reaches : Extends "" "/" "a/1" "a/" := ⟨by decide, "a", by decide⟩
  exact grouped (emptyObject "a/1" none) (by decide) ⟨rfl, by decide, by decide⟩
    ⟨by decide, "a/", reaches⟩

end ColdStore.Scheduler
