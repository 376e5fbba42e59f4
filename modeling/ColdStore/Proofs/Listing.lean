import ColdStore.Process.Sequential
import ColdStore.Scheduler.Listing

/-! Which listings are cut into pages that show every object, and which are not. -/

namespace ColdStore.Scheduler

open Rust Process Program Paging

/-! A page of the scheduler is made from a page of the metadata service. -/

section

variable (svc : CacheService) (env : Nat → Moment) (w : World)

/-- A listing asks once, and makes its page from the answer. -/
theorem listObjects_succeeds (arrives : (env w.tick).fault = none) {bucket : String}
    (stored : w.metadata.buckets.containsKey bucket = true)
    (keyPrefix marker delimiter : Option String) (maxKeys : UInt32) :
    Succeeds (machine svc env) (listObjects bucket keyPrefix marker delimiter maxKeys)
      (fun page _ => page = buildListObjectsPage bucket
        ((listedObjects bucket (keyPrefix.getD "") (marker.getD "")
          w.metadata.objects.values).take (listLimit maxKeys))
        keyPrefix marker delimiter maxKeys) w := by
  have listed : w.metadata.listObjects ⟨bucket, keyPrefix, marker, maxKeys⟩ = .ok _ :=
    MetadataState.listObjects_of_bucket stored
  -- The catalogue cuts the listing to the limit before the scheduler makes its page.
  have answered : Succeeds (machine svc env)
      (askMetadata (.listObjects ⟨bucket, keyPrefix, marker, maxKeys⟩))
      (fun response _ => response.objects = (listedObjects bucket (keyPrefix.getD "")
        (marker.getD "") w.metadata.objects.values).take (listLimit maxKeys)) w := by
    apply achieves_perform rfl
    simp only [machine, serve, delivered, arrives]
    exact ⟨_, listed, rfl⟩
  apply succeeds_bind answered
  intro response after objects
  apply succeeds_pure
  rw [objects]

/--
As many objects as were asked for are enough to make the page.

Either there are no more objects, or some of these share a common prefix, so that they do not fill
the page, and every other object falls under a common prefix that is on the page already.
-/
def PageSuffices (limit : Nat) (candidate : ObjectMetadata → Option String)
    (matching : List ObjectMetadata) : Prop := matching.length ≤ limit ∨
    (¬ ((matching.take limit).filterMap candidate).Nodup ∧
      ∀ obj ∈ matching.drop limit, ∃ name ∈ (matching.take limit).filterMap candidate,
        candidate obj = some name)

/-- The page made from the first objects is the page of all objects exactly if they suffice. -/
theorem userPage_take_eq_iff (limit : Nat) (candidate : ObjectMetadata → Option String)
    (matching : List ObjectMetadata) :
    userPage limit (page candidate limit (matching.take limit))
        = userPage limit (page candidate limit matching) ↔
      PageSuffices limit candidate matching := by
  have parts := page_take_iff candidate limit matching
  constructor
  · intro same
    rw [userPage, userPage, ListObjectsPage.mk.injEq] at same
    exact parts.mp ⟨same.1, same.2.1, same.2.2.2⟩
  · intro suffices_
    obtain ⟨objects, commonPrefixes, truncated⟩ := parts.mpr suffices_
    cases suffices_ with
    | inl short => rw [List.take_of_length_le short]
    | inr _ =>
      -- The first objects are not more than fit, so neither page goes on.
      have room : (page candidate limit (matching.take limit)).truncated = false :=
        overflows_eq_false_of_length_le candidate (List.length_take_le limit matching)
      rw [room] at truncated
      simp only [userPage, objects, commonPrefixes, room, ← truncated, Bool.false_eq_true, false_and,
        if_false]

/--
A listing of the scheduler is the page of all objects exactly if as many objects as were asked for
are enough to make that page.

The metadata service cuts the objects off before common prefixes are formed, and the scheduler does
not look at its answer that there were more.
-/
theorem listObjects_refines_page_iff (arrives : (env w.tick).fault = none)
    (bucket : String) (stored : w.metadata.buckets.containsKey bucket = true)
    (keyPrefix marker delimiter : Option String) (maxKeys : UInt32) :
    Succeeds (machine svc env) (listObjects bucket keyPrefix marker delimiter maxKeys)
        (fun page _ => page = buildListObjectsPage bucket w.metadata.objects.values keyPrefix
          marker delimiter maxKeys) w ↔ PageSuffices (listLimit maxKeys)
        (groupOf (keyPrefix.getD "") (delimiter.getD ""))
        (listedObjects bucket (keyPrefix.getD "") (marker.getD "") w.metadata.objects.values) := by
  have made := listObjects_succeeds svc env w arrives stored keyPrefix marker delimiter maxKeys
  rw [← userPage_take_eq_iff, buildListObjectsPage_eq]
  rw [buildListObjectsPage_eq, listedObjects_take] at made
  -- The page that was made is the only one, so it is the expected one or it is not.
  constructor
  · exact fun expected => made.value_unique expected
  · exact fun same => same ▸ made

end

/-- An empty object of one bucket. -/
def emptyObject (key : String) (versionId : Option String) : ObjectMetadata :=
  { bucket := "docs", key, versionId }

/-- A catalogue of one bucket with some objects. -/
def catalogueOf (objects : List ObjectMetadata) : MetadataState :=
  { freshCatalogue ["docs"] with
    objects := objects.foldl (fun map obj => map.insert obj.objectKey obj) .empty }

/-- A deployment with a catalogue and nothing else. -/
def worldOf (objects : List ObjectMetadata) : World :=
  { World.fresh [] 0 oneDrive with metadata := catalogueOf objects }

/-- Two keys fit on a page of two. -/
theorem listObjects_refines_page_twoKeys :
    Succeeds (machine (.even 0) (still 0)) (listObjects "docs" none none (some "/") 2)
      (fun page _ => page = ⟨[emptyObject "a" none], ["b/"], none, false⟩)
      (worldOf [emptyObject "b/c" none, emptyObject "a" none]) := by
  have refines := listObjects_refines_page_iff (.even 0) (still 0)
    (worldOf [emptyObject "b/c" none, emptyObject "a" none]) rfl "docs" rfl none none (some "/") 2
  exact refines.mpr (.inl (by decide +kernel))

/-- Of two keys and a page of one, the second key is lost: the page does not say that it goes on. -/
theorem truncated_listing_not_marked :
    let w := worldOf [emptyObject "a" none, emptyObject "b" none]
    ((listObjects "docs" none none none 1).run.run (machine (.even 0) (still 0)) w).map Prod.fst
        = some (.ok ⟨[emptyObject "a" none], [], none, false⟩) ∧
      buildListObjectsPage "docs" w.metadata.objects.values none none none 1
        = ⟨[emptyObject "a" none], [], some "a", true⟩ := by
  decide +kernel

/-! Pages with common prefixes. -/

/-- Where the page after this one goes on, if it says that there is one. -/
def ListObjectsPage.next (page : ListObjectsPage) : Option (Option String) :=
  if page.isTruncated then some page.nextMarker else none

/-- The objects that a listing is about, in no particular order. -/
def matchingObjects (bucket keyPrefix : String) (objects : List ObjectMetadata) :
    List ObjectMetadata :=
  objects.filter fun obj => obj.bucket = bucket && startsWith obj.key keyPrefix

/-- The number of entries that some objects are shown as. -/
def entryCount (candidate : String → Option String) (objects : List ObjectMetadata) : Nat :=
  (objects.filter fun obj => (candidate obj.key).isNone).length +
    (objects.filterMap fun obj => candidate obj.key).dedup.length

/--
No page ends with a common prefix that stands for an object behind it.

Where an object is the first of its entry, that entry ends a page and another object follows, the
object is shown as itself, or its key is the whole common prefix and the next object is not under it.
-/
def PagesEndBetweenGroups (limit : Nat) (candidate : String → Option String)
    (listed : List ObjectMetadata) : Prop :=
  ∀ before obj next after, listed = before ++ obj :: next :: after →
    (∀ name, candidate obj.key = some name →
      ∀ earlier ∈ before, candidate earlier.key ≠ some name) →
    limit ∣ entryCount candidate (before ++ [obj]) →
    candidate obj.key = none ∨
      (candidate obj.key = some obj.key ∧ candidate next.key ≠ some obj.key)

theorem length_entries (candidate : String → Option String) (objects : List ObjectMetadata) :
    (entries (fun obj => candidate obj.key) [] objects).length = entryCount candidate objects := by
  have total := length_items_add_length_groups (entries (fun obj => candidate obj.key) [] objects)
  rw [items_entries, (groups_entries_perm _ _).length_eq] at total
  exact total.symm

/-- With distinct keys, a listing is seamless exactly if its pages end between groups. -/
theorem seamless_iff_pagesEndBetweenGroups {candidate : String → Option String}
    (grouping : Grouping ObjectMetadata.key fun obj => candidate obj.key) {limit : Nat}
    {listed : List ObjectMetadata} (sorted : listed.Pairwise fun left right => left.key < right.key) :
    Seamless ObjectMetadata.key (fun obj => candidate obj.key) limit listed ↔
      PagesEndBetweenGroups limit candidate listed := by
  -- An object opens its entry exactly if no earlier one has the same common prefix.
  have opens : ∀ (before : List ObjectMetadata) (obj : ObjectMetadata),
      shown (fun obj => candidate obj.key)
          (before.filterMap (fun obj => candidate obj.key)) obj ≠ [] ↔
        ∀ name, candidate obj.key = some name →
          ∀ earlier ∈ before, candidate earlier.key ≠ some name := by
    intro before obj
    rw [shown_ne_nil_iff]
    simp
  have resumes : ∀ before obj next after, listed = before ++ obj :: next :: after →
      (Resumes ObjectMetadata.key (fun obj => candidate obj.key) obj (next :: after) ↔
        candidate obj.key = none ∨
          (candidate obj.key = some obj.key ∧ candidate next.key ≠ some obj.key)) := by
    intro before obj next after split
    rw [split] at sorted
    exact resumes_iff_of_strict grouping (List.pairwise_append.mp sorted).2.1
  constructor
  · intro seamless before obj next after split first full
    rw [← resumes before obj next after split]
    apply seamless before obj (next :: after) split (by simp) ((opens before obj).mpr first)
    rw [length_entries]
    exact full
  · intro between before obj after split left visible full
    cases after with
    | nil => exact absurd rfl left
    | cons next after =>
      rw [length_entries] at full
      rw [resumes before obj next after split]
      exact between before obj next after split ((opens before obj).mp visible) full

/-- The objects behind a marker, in terms of the whole listing. -/
theorem listedObjects_eq_behind (bucket keyPrefix : String) (marker : Option String)
    (objects : List ObjectMetadata) :
    listedObjects bucket keyPrefix (marker.getD "") objects
      = behind ObjectMetadata.key (listedObjects bucket keyPrefix "" objects) marker := by
  cases marker with
  | none => rw [behind_none, Option.getD_none]
  | some marker => exact listedObjects_behind bucket keyPrefix marker objects

variable {objects : List ObjectMetadata}

/-- A listing of objects with distinct keys is in the strict order of its keys. -/
theorem listedObjects_strict (distinct : (objects.map ObjectMetadata.key).Nodup)
    (bucket keyPrefix marker : String) :
    (listedObjects bucket keyPrefix marker objects).Pairwise fun left right =>
      left.key < right.key := by
  have sublist : ((objects.filter fun obj => obj.bucket = bucket &&
      startsWith obj.key keyPrefix && decide (marker < obj.key)).map
        ObjectMetadata.key).Nodup := distinct.sublist (List.filter_sublist.map _)
  have apart : ((listedObjects bucket keyPrefix marker objects).map ObjectMetadata.key).Nodup :=
    ((sortByKey_perm listingOrder _).map _).nodup_iff.mpr sublist
  have ordered := listedObjects_sorted bucket keyPrefix marker objects
  exact (ordered.and (List.pairwise_map.mp apart)).imp fun both => lt_of_le_of_ne both.1 both.2

/-- A listing shows the matching objects with a key. -/
theorem listedObjects_perm (named : ∀ obj ∈ objects, obj.key ≠ "") (bucket keyPrefix : String) :
    (listedObjects bucket keyPrefix "" objects).Perm (matchingObjects bucket keyPrefix objects) := by
  have same : (objects.filter fun obj => obj.bucket = bucket &&
      startsWith obj.key keyPrefix && decide ("" < obj.key))
      = matchingObjects bucket keyPrefix objects := by
    apply List.filter_congr
    intro obj mem
    have least : "" ≤ obj.key := le_of_startsWith (by simp [startsWith])
    have behind : "" < obj.key := lt_of_le_of_ne least (named obj mem).symm
    simp [behind]
  rw [← same]
  exact sortByKey_perm _ _

/--
The pages of objects with distinct keys come to an end and show every object or its common prefix
exactly once, if and only if no page ends with a common prefix that stands for an object behind it.

The marker of such a page comes before the objects it stands for, so they are listed again: the
common prefix is on both pages, and a page of one entry is followed by itself forever.
-/
theorem delimited_pages_complete_iff (bucket : String) (objects : List ObjectMetadata)
    (distinct : (objects.map ObjectMetadata.key).Nodup) (named : ∀ obj ∈ objects, obj.key ≠ "")
    (keyPrefix : Option String) (delimiter : String) (maxKeys : UInt32) (asked : maxKeys ≠ 0) :
    (∃ pages : List ListObjectsPage,
      Chain (fun marker => (.ok (buildListObjectsPage bucket objects keyPrefix marker
        (some delimiter) maxKeys) : Except Status _)) ListObjectsPage.next none pages ∧
      (pages.flatMap ListObjectsPage.objects).Perm
        ((matchingObjects bucket (keyPrefix.getD "") objects).filter fun obj =>
          (candidatePrefix (keyPrefix.getD "") delimiter obj.key).isNone) ∧
      (pages.flatMap ListObjectsPage.commonPrefixes).Perm
        ((matchingObjects bucket (keyPrefix.getD "") objects).filterMap fun obj =>
          candidatePrefix (keyPrefix.getD "") delimiter obj.key).dedup) ↔
    PagesEndBetweenGroups maxKeys.toNat (candidatePrefix (keyPrefix.getD "") delimiter)
      (listedObjects bucket (keyPrefix.getD "") "" objects) := by
  have strict := listedObjects_strict distinct bucket (keyPrefix.getD "") ""
  have sorted := listedObjects_sorted bucket (keyPrefix.getD "") "" objects
  have grouping := candidatePrefix_grouping (keyPrefix.getD "") delimiter
  have positive : 0 < maxKeys.toNat := listLimit_of_ne_zero asked ▸ listLimit_pos maxKeys
  have perm := listedObjects_perm named bucket (keyPrefix.getD "")
  -- The pages are those of the listing, as users see them.
  have fetches : ∀ marker, (.ok (buildListObjectsPage bucket objects keyPrefix marker
      (some delimiter) maxKeys) : Except Status _)
      = Except.map (userPage (listLimit maxKeys)) (.ok (pageBehind ObjectMetadata.key
          (groupOf (keyPrefix.getD "") delimiter) maxKeys.toNat
          (listedObjects bucket (keyPrefix.getD "") "" objects) marker)) := by
    intro marker
    rw [buildListObjectsPage_eq, listedObjects_eq_behind, listLimit_of_ne_zero asked]
    rfl
  have goes : ∀ page, (userPage (listLimit maxKeys) page).next
      = following ObjectMetadata.key page := by
    intro page
    simp only [ListObjectsPage.next, userPage, following, listLimit_ne_u64Max asked, ne_eq,
      not_false_eq_true, and_true]
    split <;> rfl
  rw [exists_chain_image_iff fetches fun _ => goes _,
    ← seamless_iff_pagesEndBetweenGroups grouping strict,
    ← exists_complete_chain_iff grouping sorted positive (ε := Status)]
  apply exists_congr
  intro pages
  apply and_congr_right
  intro _
  have shownItems : (pages.map (userPage (listLimit maxKeys))).flatMap ListObjectsPage.objects
      = items (pages.flatMap Page.entries) := by
    rw [items_flatMap, List.flatMap_map]
    rfl
  have shownGroups : (pages.map (userPage (listLimit maxKeys))).flatMap
      ListObjectsPage.commonPrefixes = groups (pages.flatMap Page.entries) := by
    rw [groups_flatMap, List.flatMap_map]
    rfl
  rw [shownItems, shownGroups]
  apply and_congr
  · exact (perm.filter _).symm.congr_right _
  · exact (perm.filterMap _).dedup.symm.congr_right _

/-- A key that is its own common prefix ends a page, and the next page goes on behind it. -/
theorem delimited_pages_complete_folder :
    ∃ pages : List ListObjectsPage,
      Chain (fun marker => (.ok (buildListObjectsPage "docs" [emptyObject "a/" none,
        emptyObject "b" none] none marker (some "/") 1) : Except Status _))
        ListObjectsPage.next none pages ∧
      (pages.flatMap ListObjectsPage.objects).Perm [emptyObject "b" none] ∧
      (pages.flatMap ListObjectsPage.commonPrefixes).Perm ["a/"] := by
  have complete := delimited_pages_complete_iff "docs" [emptyObject "a/" none, emptyObject "b" none]
    (by decide) (by decide) none "/" 1 (by decide)
  apply complete.mpr
  intro before obj next after split _ _
  have listed : listedObjects "docs" "" "" [emptyObject "a/" none, emptyObject "b" none]
      = [emptyObject "a/" none, emptyObject "b" none] := by decide +kernel
  rw [Option.getD_none, listed] at split
  -- There is only one place between two objects.
  cases before with
  | nil =>
    obtain ⟨rfl, rfl, _⟩ : emptyObject "a/" none = obj ∧ emptyObject "b" none = next ∧ [] = after := by
      simpa using split
    exact .inr (by decide +kernel)
  | cons head before =>
    have lengths := congrArg List.length split
    simp at lengths
    omega

/-- Two keys under one common prefix, listed one entry at a time, are listed forever. -/
theorem delimited_pages_never_end :
    buildListObjectsPage "docs" [emptyObject "a/1" none, emptyObject "a/2" none] none none
        (some "/") 1 = ⟨[], ["a/"], some "a/", true⟩ ∧
      ¬ ∃ pages, Chain (fun marker => (.ok (buildListObjectsPage "docs" [emptyObject "a/1" none,
        emptyObject "a/2" none] none marker (some "/") 1) : Except Status _))
        ListObjectsPage.next none pages := by
  have first : buildListObjectsPage "docs" [emptyObject "a/1" none, emptyObject "a/2" none] none none
      (some "/") 1 = ⟨[], ["a/"], some "a/", true⟩ := by decide +kernel
  have again : buildListObjectsPage "docs" [emptyObject "a/1" none, emptyObject "a/2" none] none
      (some "a/") (some "/") 1 = ⟨[], ["a/"], some "a/", true⟩ := by decide +kernel
  -- Both pages go on behind the common prefix.
  have endless : ∀ {marker pages}, Chain (fun marker => (.ok (buildListObjectsPage "docs"
      [emptyObject "a/1" none, emptyObject "a/2" none] none marker (some "/") 1) :
        Except Status _)) ListObjectsPage.next marker pages →
      marker = none ∨ marker = some "a/" → False := by
    intro marker pages chain at_
    induction chain with
    | last fetched past =>
      rcases at_ with rfl | rfl
      · rw [first, Except.ok.injEq] at fetched
        simp [← fetched, ListObjectsPage.next] at past
      · rw [again, Except.ok.injEq] at fetched
        simp [← fetched, ListObjectsPage.next] at past
    | more fetched goes _ ih =>
      apply ih
      rcases at_ with rfl | rfl
      · rw [first, Except.ok.injEq] at fetched
        simp only [← fetched, ListObjectsPage.next, if_true, Option.some.injEq] at goes
        exact .inr goes.symm
      · rw [again, Except.ok.injEq] at fetched
        simp only [← fetched, ListObjectsPage.next, if_true, Option.some.injEq] at goes
        exact .inr goes.symm
  refine ⟨first, ?_⟩
  rintro ⟨pages, chain⟩
  exact endless chain (.inl rfl)

/-! Pages of the metadata service, which have no common prefixes. -/

/-- A page as the metadata service sends it. -/
def responsePage (page : Page ObjectMetadata String) : ListObjectsResponse where
  objects := items page.entries
  nextMarker := if page.truncated then
    page.entries.getLast?.map (label ObjectMetadata.key) else none
  isTruncated := page.truncated

/-- Where the page after this one goes on, if it says that there is one. -/
def nextResponse (response : ListObjectsResponse) : Option (Option String) :=
  if response.isTruncated then some response.nextMarker else none

/-- A page of the metadata service is a page without groups. -/
theorem listObjects_eq_responsePage {s : MetadataState} {bucket : String}
    (stored : s.buckets.containsKey bucket = true) (keyPrefix marker : Option String)
    (maxKeys : UInt32) :
    s.listObjects ⟨bucket, keyPrefix, marker, maxKeys⟩ = .ok (responsePage
      (page (fun _ => none) (listLimit maxKeys) (listedObjects bucket (keyPrefix.getD "")
        (marker.getD "") s.objects.values))) := by
  have listed : s.listObjects ⟨bucket, keyPrefix, marker, maxKeys⟩ = .ok _ :=
    MetadataState.listObjects_of_bucket stored
  rw [listed]
  have positive := listLimit_pos maxKeys
  generalize listedObjects bucket (keyPrefix.getD "") (marker.getD "") s.objects.values = objects
  generalize listLimit maxKeys = limit at positive ⊢
  -- On a full page the last entry is the last object that was taken.
  have last : limit < objects.length → ((objects.take limit).map (.inl : _ → _ ⊕ String)).getLast?.map
      (label ObjectMetadata.key) = objects[limit - 1]?.map ObjectMetadata.key := by
    intro long
    have there : objects[limit - 1]? = some (objects[limit - 1]) := List.getElem?_eq_getElem (by omega)
    rw [List.getLast?_map, List.getLast?_take, if_neg (by omega), there]
    rfl
  rw [page_of_none fun _ => rfl, responsePage]
  by_cases long : limit < objects.length
  · simp only [long, if_true, decide_true, items_map_inl, last long]
  · simp only [long, if_false, decide_false, items_map_inl, Bool.false_eq_true]

/--
The pages of the metadata service show every object of a bucket and prefix exactly once, in order,
if and only if the bucket exists and no page ends between two versions of a key.

The marker of a page is a key alone, so the versions of that key that did not fit are passed over.
-/
theorem metadata_pages_complete_iff (s : MetadataState) (bucket : String)
    (keyPrefix : Option String) (maxKeys : UInt32) (asked : maxKeys ≠ 0) :
    (∃ pages : List ListObjectsResponse,
      Chain (fun marker => s.listObjects ⟨bucket, keyPrefix, marker, maxKeys⟩) nextResponse none
        pages ∧ pages.flatMap ListObjectsResponse.objects
        = listedObjects bucket (keyPrefix.getD "") "" s.objects.values) ↔
    s.buckets.containsKey bucket = true ∧
      ∀ before obj next after, listedObjects bucket (keyPrefix.getD "") "" s.objects.values
          = before ++ obj :: next :: after →
        maxKeys.toNat ∣ before.length + 1 → obj.key ≠ next.key := by
  by_cases stored : s.buckets.containsKey bucket = true
  · have sorted := listedObjects_sorted bucket (keyPrefix.getD "") "" s.objects.values
    have positive : 0 < maxKeys.toNat := listLimit_of_ne_zero asked ▸ listLimit_pos maxKeys
    have fetches : ∀ marker, s.listObjects ⟨bucket, keyPrefix, marker, maxKeys⟩
        = Except.map responsePage (.ok (pageBehind ObjectMetadata.key (fun _ => none) maxKeys.toNat
            (listedObjects bucket (keyPrefix.getD "") "" s.objects.values) marker)) := by
      intro marker
      rw [listObjects_eq_responsePage stored, listedObjects_eq_behind, listLimit_of_ne_zero asked]
      rfl
    have goes : ∀ page, nextResponse (responsePage page) = following ObjectMetadata.key page := by
      intro page
      simp only [nextResponse, responsePage, following]
      split <;> rfl
    rw [exists_chain_image_iff fetches fun _ => goes _, ← seamless_of_none_iff sorted,
      ← exists_ordered_chain_iff sorted positive (ε := Status)]
    simp only [stored, true_and]
    apply exists_congr
    intro pages
    have shownItems : (pages.map responsePage).flatMap ListObjectsResponse.objects
        = items (pages.flatMap Page.entries) := by
      rw [items_flatMap, List.flatMap_map]
      rfl
    rw [shownItems]
  · constructor
    · rintro ⟨pages, chain, _⟩
      -- Without the bucket, not even the first page is there.
      have missing : s.listObjects ⟨bucket, keyPrefix, none, maxKeys⟩
          = .error (.notFound ("bucket not found: " ++ bucket)) := by
        simp [MetadataState.listObjects, ensure, stored, Bind.bind, Except.bind]
      cases chain with
      | last fetched _ => rw [missing] at fetched; cases fetched
      | more fetched _ _ => rw [missing] at fetched; cases fetched
    · exact fun both => absurd both.1 stored

/-- One key with two versions. -/
def twoVersions : MetadataState := catalogueOf [emptyObject "a" (some "1"), emptyObject "a" (some "2")]

/-- On a page of two, both versions of a key are shown. -/
theorem metadata_pages_complete_twoVersions :
    ∃ pages : List ListObjectsResponse,
      Chain (fun marker => twoVersions.listObjects ⟨"docs", none, marker, 2⟩) nextResponse none pages ∧
      pages.flatMap ListObjectsResponse.objects
        = [emptyObject "a" (some "1"), emptyObject "a" (some "2")] := by
  have listed : listedObjects "docs" "" "" twoVersions.objects.values
      = [emptyObject "a" (some "1"), emptyObject "a" (some "2")] := by decide +kernel
  have complete := metadata_pages_complete_iff twoVersions "docs" none 2 (by decide)
  rw [Option.getD_none, listed] at complete
  apply complete.mpr
  refine ⟨rfl, ?_⟩
  intro before obj next after split full
  have lengths := congrArg List.length split
  simp only [List.length_append, List.length_cons, List.length_nil] at lengths
  -- The only place between two objects comes after one of them.
  obtain rfl : before = [] := List.length_eq_zero_iff.mp (by omega)
  exact absurd full (by decide)

/-- On pages of one, the second version of a key is never shown. -/
theorem second_version_passed_over :
    Chain (fun marker => twoVersions.listObjects ⟨"docs", none, marker, 1⟩) nextResponse none
        [⟨[emptyObject "a" (some "1")], some "a", true⟩, ⟨[], none, false⟩] ∧
      emptyObject "a" (some "2") ∈ twoVersions.objects.values := by
  have first : twoVersions.listObjects ⟨"docs", none, none, 1⟩
      = .ok ⟨[emptyObject "a" (some "1")], some "a", true⟩ := by decide +kernel
  have second : twoVersions.listObjects ⟨"docs", none, some "a", 1⟩ = .ok ⟨[], none, false⟩ := by
    decide +kernel
  exact ⟨.more first rfl (.last second rfl), by decide +kernel⟩

end ColdStore.Scheduler
