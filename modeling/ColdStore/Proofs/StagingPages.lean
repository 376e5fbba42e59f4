import ColdStore.Cache.ServiceLaws
import ColdStore.Paging.Chain
import ColdStore.Rust.Sort

/-! Listings of staged objects page by page, and the objects that no page shows. -/

namespace ColdStore

open Rust Paging CacheState

variable {σ : Type}

/-- The text that an entry of the index is listed and paged by. -/
def entryCursor (entry : CacheKey × StoredEntry) : String := entry.1.asCursor

/-- The line that an entry of the index is listed by. -/
def entryLine (entry : CacheKey × StoredEntry) : StagingKeyEntry := stagingKeyEntry entry.1 entry.2

/-- Everything that is staged, in the order it is listed in. -/
def stagingOrder (s : CacheState σ) : List (CacheKey × StoredEntry) :=
  sortByKey entryCursor s.index.staging.entries

/-- Where the page after this one goes on, if it says that there is one. -/
def nextStagingPage (response : ListStagingKeysResponse) : Option (Option String) :=
  if response.hasMore then some (response.entries.getLast?.map fun line => line.cacheKey.asCursor)
  else none

/-- A page as the cache sends it. -/
def stagingPage (page : Page (CacheKey × StoredEntry) String) : ListStagingKeysResponse :=
  ⟨(items page.entries).map entryLine, page.truncated⟩

theorem entryCursor_pos (entry : CacheKey × StoredEntry) : "" < entryCursor entry := by
  have present : (entryCursor entry).toList ≠ [] := by simp [entryCursor, CacheKey.asCursor]
  obtain ⟨first, rest, cursor⟩ := List.exists_cons_of_ne_nil present
  rw [String.lt_iff_toList_lt, cursor]
  exact List.nil_lt_cons first rest

/-- A page of staged objects is a page of their order. -/
theorem listStagingKeys_eq_stagingPage (s : CacheState σ) {limit : Nat} (positive : 0 < limit)
    (after : Option String) :
    s.listStagingKeys limit after =
      stagingPage (pageBehind entryCursor (fun _ => none) limit (stagingOrder s) after) := by
  have listed : sortByKey entryCursor (s.index.staging.entries.filter fun entry =>
      decide (after.getD "" < entryCursor entry)) = behind entryCursor (stagingOrder s) after := by
    rw [behind, stagingOrder, filter_sortByKey]
    congr 1
    apply List.filter_congr
    intro entry _
    -- Without a cursor everything is listed, since no cursor is empty.
    cases after with
    | none => exact decide_eq_true (entryCursor_pos entry)
    | some cursor => rfl
  rw [pageBehind, page_of_none fun _ => rfl, ← listed, stagingPage, items_map_inl, listStagingKeys,
    if_neg positive.ne']
  rfl

/-- The page after a page of the order is the one that a client asks for. -/
theorem nextStagingPage_stagingPage (limit : Nat) (list : List (CacheKey × StoredEntry))
    (after : Option String) :
    nextStagingPage (stagingPage (pageBehind entryCursor (fun _ => none) limit list after)) =
      following entryCursor (pageBehind entryCursor (fun _ => none) limit list after) := by
  rw [pageBehind, page_of_none fun _ => rfl, stagingPage, items_map_inl, nextStagingPage, following]
  simp only [List.getLast?_map, Option.map_map]
  rfl

/-- Lines show every entry once exactly if the entries that they come from do. -/
theorem perm_map_entryLine_iff {shown list : List (CacheKey × StoredEntry)}
    (distinct : (list.map Prod.fst).Nodup) (listed : shown ⊆ list) :
    (shown.map entryLine).Perm (list.map entryLine) ↔ shown.Perm list := by
  refine ⟨fun same => ?_, fun same => same.map entryLine⟩
  -- A line tells the key of its entry, and no two entries have the same.
  have keys : (shown.map Prod.fst).Perm (list.map Prod.fst) := by
    have mapped := same.map StagingKeyEntry.cacheKey
    rwa [List.map_map, List.map_map] at mapped
  have once : shown.Nodup := (keys.nodup_iff.mpr distinct).of_map
  have length : list.length ≤ shown.length := by
    rw [← List.length_map entryLine, ← same.length_eq, List.length_map]
  exact (List.subperm_of_subset once listed).perm_of_length_le length

/--
Page after page, a listing of staged objects comes to an end. It shows every object exactly once if
no page ends between two objects with the same cursor, and so for any limit if cursors are distinct.

The cursor of an object without a version is that of the object with an empty one, and names may
hold the separator. What has the cursor of the last line of a page and did not fit is passed over.
-/
theorem staging_pages_complete_iff (s : CacheState σ) (limit : Nat) (positive : 1 ≤ limit) :
    ∃ pages, Chain (fun after => (.ok (s.listStagingKeys limit after) : Except Status _))
        nextStagingPage none pages ∧
      (∀ others, Chain (fun after => (.ok (s.listStagingKeys limit after) : Except Status _))
        nextStagingPage none others → others = pages) ∧
      ((pages.flatMap ListStagingKeysResponse.entries).Perm
          (s.index.staging.entries.map entryLine) ↔
        ∀ before entry next after, stagingOrder s = before ++ entry :: next :: after →
          limit ∣ before.length + 1 → entryCursor entry ≠ entryCursor next) ∧
      ((s.index.staging.keys.map CacheKey.asCursor).Nodup →
        (pages.flatMap ListStagingKeysResponse.entries).Perm
          (s.index.staging.entries.map entryLine)) := by
  have sorted : (stagingOrder s).Pairwise fun left right =>
      entryCursor left ≤ entryCursor right := sortByKey_sorted entryCursor _
  have perm : (stagingOrder s).Perm s.index.staging.entries := sortByKey_perm _ _
  have distinct : ((stagingOrder s).map Prod.fst).Nodup :=
    (perm.map Prod.fst).nodup_iff.mpr s.index.staging.nodup
  -- The pages that are sent are those of the order, seen as lines.
  have fetches : ∀ after, (.ok (s.listStagingKeys limit after) : Except Status _) =
      Except.map stagingPage (.ok (pageBehind entryCursor (fun _ => none) limit
        (stagingOrder s) after)) := by
    intro after
    rw [listStagingKeys_eq_stagingPage s positive]
    rfl
  obtain ⟨pages, chain⟩ := @exists_chain_of_none _ _ _ entryCursor (stagingOrder s) limit Status
    positive none
  have sent := chain.map fetches fun {after page} fetched => by
    rw [← Except.ok.inj fetched]
    exact nextStagingPage_stagingPage limit (stagingOrder s) after
  have lines : (pages.map stagingPage).flatMap ListStagingKeysResponse.entries =
      (items (pages.flatMap Page.entries)).map entryLine := by
    rw [items_flatMap, List.map_flatMap, List.flatMap_map]
    rfl
  have complete : ((pages.map stagingPage).flatMap ListStagingKeysResponse.entries).Perm
      (s.index.staging.entries.map entryLine) ↔
        ∀ before entry next after, stagingOrder s = before ++ entry :: next :: after →
          limit ∣ before.length + 1 → entryCursor entry ≠ entryCursor next := by
    rw [lines, ← seamless_of_none_iff sorted, ← chain.perm_iff_of_none sorted positive,
      ← perm_map_entryLine_iff distinct chain.shows_of_none.2]
    exact (perm.map entryLine).symm.congr_right _
  refine ⟨pages.map stagingPage, sent, fun others other => other.unique sent, complete,
    fun apart => complete.mpr ?_⟩
  intro before entry next after split _ same
  -- Two entries with one cursor would give this cursor twice.
  have cursors : ((stagingOrder s).map entryCursor).Nodup := by
    refine ((perm.map entryCursor).nodup_iff).mpr ?_
    rwa [HashMap.keys, List.map_map] at apart
  rw [split, List.map_append, List.map_cons, List.map_cons, same] at cursors
  simp [List.nodup_append] at cursors

/-- An entry of an object with no octets. -/
def emptyEntry (versionId : Option String) : StoredEntry :=
  ⟨1, ⟨"docs", "a", versionId, 0, 0, 0, 0, 0, none, none, none, .staging⟩⟩

/-- Two staged versions of an object. -/
def stagedVersions (first second : Option String) (apart : first ≠ second) : CacheState Unit :=
  ⟨(), { staging := ⟨[(⟨"docs", "a", first⟩, emptyEntry first),
    (⟨"docs", "a", second⟩, emptyEntry second)], by simpa using apart⟩ }⟩

/-- Versions with different cursors are both shown, one on each page. -/
theorem staging_pages_complete_versions :
    ∃ pages, Chain (fun after => (.ok ((stagedVersions (some "1") (some "2")
        (by decide)).listStagingKeys 1 after) : Except Status _)) nextStagingPage none pages ∧
      (pages.flatMap ListStagingKeysResponse.entries).Perm
        [⟨"docs", "a", some "1", 0, some ⟨0, 0⟩⟩, ⟨"docs", "a", some "2", 0, some ⟨0, 0⟩⟩] := by
  obtain ⟨pages, chain, _, _, complete⟩ :=
    staging_pages_complete_iff (stagedVersions (some "1") (some "2") (by decide)) 1 (Nat.le_refl 1)
  exact ⟨pages, chain, complete (by decide +kernel)⟩

/-- A missing and an empty version have one cursor, and the second of them is on no page. -/
theorem staging_pages_pass_over_version :
    (stagedVersions none (some "") (by decide)).index.staging.len = 2 ∧
      Chain (fun after => (.ok ((stagedVersions none (some "")
        (by decide)).listStagingKeys 1 after) : Except Status _)) nextStagingPage none
        [⟨[⟨"docs", "a", none, 0, some ⟨0, 0⟩⟩], true⟩, ⟨[], false⟩] := by
  have first : (stagedVersions none (some "") (by decide)).listStagingKeys 1 none =
      ⟨[⟨"docs", "a", none, 0, some ⟨0, 0⟩⟩], true⟩ := by decide +kernel
  have second : (stagedVersions none (some "") (by decide)).listStagingKeys 1
      (some "docs\u0000a\u0000") = ⟨[], false⟩ := by decide +kernel
  exact ⟨rfl, .more (congrArg Except.ok first) rfl (.last (congrArg Except.ok second) rfl)⟩

end ColdStore
