import ColdStore.Paging.Entries
import Mathlib.Order.Lattice

/-! Chains of pages: each page says where the next one goes on, and together they show everything. -/

namespace Paging

section

variable {M P Q ε : Type}

/-- All pages from a marker on, up to the one that has no successor. -/
inductive Chain (fetch : M → Except ε P) (next : P → Option M) : M → List P → Prop
  | last {marker : M} {page : P} (fetched : fetch marker = .ok page) (past : next page = none) :
      Chain fetch next marker [page]
  | more {marker following : M} {page : P} {rest : List P} (fetched : fetch marker = .ok page)
      (goes : next page = some following) (chain : Chain fetch next following rest) :
      Chain fetch next marker (page :: rest)

variable {fetch : M → Except ε P} {next : P → Option M} {fetchImage : M → Except ε Q}
  {nextImage : Q → Option M} {view : P → Q}

variable {marker : M} {pages : List P}

/-- Every page of a chain was fetched. -/
theorem Chain.fetched_of_mem (chain : Chain fetch next marker pages) {page : P}
    (mem : page ∈ pages) : ∃ from_, fetch from_ = .ok page := by
  induction chain with
  | last fetched _ => exact ⟨_, List.mem_singleton.mp mem ▸ fetched⟩
  | more fetched _ _ ih =>
    cases List.mem_cons.mp mem with
    | inl same => exact ⟨_, same ▸ fetched⟩
    | inr inside => exact ih inside

/-- There is only one chain from a marker on. -/
theorem Chain.unique {others : List P} (chain : Chain fetch next marker pages)
    (other : Chain fetch next marker others) : pages = others := by
  -- Both fetch the same page, which says for both whether and where to go on.
  induction chain generalizing others with
  | last fetched past =>
    cases other with
    | last fetched' _ => rw [Except.ok.inj (fetched.symm.trans fetched')]
    | more fetched' goes _ =>
      rw [Except.ok.inj (fetched.symm.trans fetched'), goes] at past
      cases past
  | more fetched goes _ ih =>
    cases other with
    | last fetched' past =>
      rw [Except.ok.inj (fetched.symm.trans fetched'), past] at goes
      cases goes
    | more fetched' goes' chain' =>
      obtain rfl := Except.ok.inj (fetched.symm.trans fetched')
      obtain rfl := Option.some.inj (goes.symm.trans goes')
      rw [ih chain']

variable (fetches : ∀ marker, fetchImage marker = (fetch marker).map view)
  (goes : ∀ {marker page}, fetch marker = .ok page → nextImage (view page) = next page)

include fetches goes

/-- Pages seen through a view form the chain of the views. -/
theorem Chain.map (chain : Chain fetch next marker pages) :
    Chain fetchImage nextImage marker (pages.map view) := by
  induction chain with
  | last fetched past => exact .last (by rw [fetches, fetched]; rfl) ((goes fetched).trans past)
  | more fetched onward _ ih =>
    exact .more (by rw [fetches, fetched]; rfl) ((goes fetched).trans onward) ih

/-- Every chain of views is a chain seen through the view. -/
theorem Chain.of_map {images : List Q} (chain : Chain fetchImage nextImage marker images) :
    ∃ pages, images = pages.map view ∧ Chain fetch next marker pages := by
  -- Each page of the image chain was fetched from a page below, which is put in its place.
  have below : ∀ {marker image}, fetchImage marker = .ok image →
      ∃ page, fetch marker = .ok page ∧ view page = image := by
    intro marker image fetched
    rw [fetches] at fetched
    cases seen : fetch marker with
    | error failure => simp [seen, Except.map] at fetched
    | ok page =>
      rw [seen] at fetched
      exact ⟨page, rfl, Except.ok.inj fetched⟩
  induction chain with
  | last fetched past =>
    obtain ⟨page, seen, rfl⟩ := below fetched
    exact ⟨[page], rfl, .last seen ((goes seen).symm.trans past)⟩
  | more fetched onward _ ih =>
    obtain ⟨pages, rfl, chain⟩ := ih
    obtain ⟨page, seen, rfl⟩ := below fetched
    exact ⟨page :: pages, rfl, .more seen ((goes seen).symm.trans onward) chain⟩

/-- What can be said of a chain of views can be said of the chain seen through the view. -/
theorem exists_chain_image_iff (marker : M) (holds : List Q → Prop) :
    (∃ images, Chain fetchImage nextImage marker images ∧ holds images) ↔
      ∃ pages, Chain fetch next marker pages ∧ holds (pages.map view) := by
  constructor
  · rintro ⟨images, chain, held⟩
    obtain ⟨pages, rfl, original⟩ := Chain.of_map fetches goes chain
    exact ⟨pages, original, held⟩
  · rintro ⟨pages, chain, held⟩
    exact ⟨pages.map view, chain.map fetches goes, held⟩

end

variable {α K : Type} [LinearOrder K] (key : α → K) (mark : α → Option K)

/-- Every group is an interval of keys, and its name is the lower end. -/
structure Grouping : Prop where
  front {item : α} {name : K} : mark item = some name → name ≤ key item
  between {item other : α} {name : K} : mark item = some name → name ≤ key other →
    key other ≤ key item → mark other = some name

/-- No groups at all. -/
theorem Grouping.none {key : α → K} : Grouping key fun _ => .none where
  front marked := nomatch marked
  between marked := nomatch marked

/-- Items with the same key are in the same group. -/
theorem Grouping.mark_eq {key : α → K} {mark : α → Option K} (grouping : Grouping key mark)
    {item other : α} {name : K} (marked : mark item = some name) (same : key other = key item) :
    mark other = some name := grouping.between marked (same ▸ grouping.front marked) same.le

/-- The marker an entry gives: the key of an item, or the name of a group. -/
def label : α ⊕ K → K
  | .inl item => key item
  | .inr name => name

/-- The items behind a marker. -/
def behind (list : List α) (marker : Option K) : List α :=
  list.filter fun item => marker.all fun bound => decide (bound < key item)

/-- The page behind a marker. -/
def pageBehind (limit : Nat) (list : List α) (marker : Option K) : Page α K :=
  page mark limit (behind key list marker)

/-- Where the page after this one goes on, if there is one. -/
def following (page : Page α K) : Option (Option K) :=
  if page.truncated then some (page.entries.getLast?.map (label key)) else none

/-- All pages of a list from a marker on. -/
abbrev ListChain (ε : Type) (limit : Nat) (list : List α) :
    Option K → List (Page α K) → Prop :=
  Chain (fun marker => (.ok (pageBehind key mark limit list marker) : Except ε _)) (following key)

/--
The marker of an item separates what has been shown from what is left.

Nothing left has the key of an item that was shown, and nothing left is in a group that was shown.
-/
def Resumes (item : α) (after : List α) : Prop :=
  match mark item with
  | none => ∀ other ∈ after, key item < key other
  | some name => ∀ other ∈ item :: after, mark other = some name → key other = name

/-- Items of the group of an item, so that nothing shows them but that group. -/
def Hidden (item : α) (dropped : List α) : Prop :=
  ∀ other ∈ dropped, ∃ name, mark item = some name ∧ mark other = some name

/-- Wherever a page may end before the listing does, its marker separates the two. -/
def Seamless (limit : Nat) (list : List α) : Prop :=
  ∀ before item after, list = before ++ item :: after → after ≠ [] →
    shown mark (before.filterMap mark) item ≠ [] →
    limit ∣ (entries mark [] (before ++ [item])).length → Resumes key mark item after

section

variable {key mark}

/-- In a sorted list the items behind a marker are at the end. -/
theorem append_behind {list : List α} (sorted : list.Pairwise fun left right => key left ≤ key right)
    (bound : K) :
    list = (list.filter fun item => decide (key item ≤ bound)) ++ behind key list (some bound) := by
  induction list with
  | nil => rfl
  | cons item rest ih =>
    obtain ⟨least, tail⟩ := List.pairwise_cons.mp sorted
    have rest_split := ih tail
    by_cases low : key item ≤ bound
    · have kept : ¬ bound < key item := not_lt.mpr low
      simp only [behind, Option.all_some] at rest_split ⊢
      simp only [List.filter_cons, decide_eq_true low, decide_eq_false kept, if_true,
        Bool.false_eq_true, if_false, List.cons_append]
      rw [← rest_split]
    · -- Everything from here on is behind the marker.
      have high : ∀ other ∈ item :: rest, bound < key other := by
        intro other mem
        cases List.mem_cons.mp mem with
        | inl same => exact same ▸ lt_of_not_ge low
        | inr inside => exact lt_of_lt_of_le (lt_of_not_ge low) (least other inside)
      have none_low : (item :: rest).filter (fun item => decide (key item ≤ bound)) = [] := by
        apply List.filter_eq_nil_iff.mpr
        intro other mem
        simpa using high other mem
      have all_high : behind key (item :: rest) (some bound) = item :: rest := by
        apply List.filter_eq_self.mpr
        intro other mem
        simpa using high other mem
      rw [none_low, all_high, List.nil_append]

theorem mem_behind_some {list : List α} {bound : K} {item : α} :
    item ∈ behind key list (some bound) ↔ item ∈ list ∧ bound < key item := by
  simp [behind]

@[simp] theorem behind_none (list : List α) : behind key list none = list := by simp [behind]

end

/-- A marker cuts a listing in two, and no group is on both sides. -/
structure Cut (list consumed rest : List α) (marker : Option K) : Prop where
  whole : list = consumed ++ rest
  resumed : behind key list marker = rest
  apart : ∀ item ∈ consumed, ∀ other ∈ rest, ∀ name, mark item = some name → mark other ≠ some name

section

variable {key mark} {list : List α} {limit : Nat}

theorem Cut.start (list : List α) : Cut key mark list [] list none where
  whole := rfl
  resumed := behind_none list
  apart := fun _ absurdity => (List.not_mem_nil absurdity).elim

variable {item : α} {after : List α}

/-- Where a marker resumes, it is the key of the item. -/
theorem Resumes.label_shown (resumes : Resumes key mark item after) {seen : List K}
    (visible : shown mark seen item ≠ []) :
    ∃ entry, shown mark seen item = [entry] ∧ label key entry = key item := by
  unfold Resumes at resumes
  rcases shown_cases visible with ⟨_, single⟩ | ⟨name, marked, _, single⟩
  · exact ⟨.inl item, single, rfl⟩
  · simp only [marked] at resumes
    exact ⟨.inr name, single, (resumes item List.mem_cons_self marked).symm⟩

variable {consumed front : List α} {marker : Option K}

/-- Groups before a cut do not matter behind it. -/
theorem Cut.entries_front {back : List α} (cut : Cut key mark list consumed (front ++ back) marker) :
    entries mark [] (consumed ++ front) = entries mark [] consumed ++ entries mark [] front := by
  have alone : entries mark (consumed.filterMap mark ++ []) front = entries mark [] front := by
    apply entries_fresh
    intro name mem other inside
    obtain ⟨earlier, within, marked⟩ := List.mem_filterMap.mp mem
    exact cut.apart earlier within other (List.mem_append_left back inside) name marked
  rw [List.append_nil] at alone
  rw [entries_append, List.nil_append, alone]

variable {before : List α}

/-- An item behind a cut is shown in the listing as it is in the rest. -/
theorem Cut.shown_front (cut : Cut key mark list consumed (before ++ item :: after) marker) :
    shown mark ((consumed ++ before).filterMap mark) item
      = shown mark (before.filterMap mark) item := by
  rw [List.filterMap_append]
  apply shown_fresh
  intro name mem
  obtain ⟨earlier, inside, marked⟩ := List.mem_filterMap.mp mem
  exact cut.apart earlier inside item (by simp) name marked

variable {dropped : List α}

/-- Items of the group of an item that was shown add nothing. -/
theorem entries_hidden (mem : item ∈ front) (hidden : Hidden mark item dropped) :
    entries mark [] (front ++ dropped) = entries mark [] front := by
  have nothing : entries mark (front.filterMap mark) dropped = [] := by
    apply entries_eq_nil
    intro other inside
    obtain ⟨name, itemMarked, otherMarked⟩ := hidden other inside
    exact ⟨name, List.mem_filterMap.mpr ⟨item, mem, itemMarked⟩, otherMarked⟩
  rw [entries_append, List.nil_append, nothing, List.append_nil]

/-- What a cut drops shows nothing, and what it leaves shows the same as alone. -/
theorem Cut.entries_rest {back : List α}
    (next : Cut key mark list (consumed ++ before ++ item :: dropped) (front ++ back)
      (some (key item))) (hidden : Hidden mark item dropped) :
    entries mark [] (before ++ item :: (dropped ++ front))
      = entries mark [] (before ++ [item]) ++ entries mark [] front := by
  -- No group shown before the cut comes back behind it, so the rest is shown as if it were first.
  have alone : entries mark (((before ++ [item]) ++ dropped).filterMap mark ++ [])
      front = entries mark [] front := by
    apply entries_fresh
    intro name mem other inside
    obtain ⟨earlier, within, marked⟩ := List.mem_filterMap.mp mem
    apply next.apart earlier _ other (List.mem_append_left back inside) name marked
    simp only [List.mem_append, List.mem_cons, List.not_mem_nil, or_false] at within ⊢
    tauto
  have whole : before ++ item :: (dropped ++ front) = (before ++ [item]) ++ dropped ++ front := by
    simp
  rw [List.append_nil] at alone
  rw [whole, entries_append, List.nil_append, alone, entries_hidden (by simp) hidden]

/-- A full page goes on behind the key of the item that fills it, where that resumes. -/
theorem following_of_split (visible : shown mark (before.filterMap mark) item ≠ [])
    (resumes : Resumes key mark item after) :
    following key ⟨entries mark [] (before ++ [item]), true⟩ = some (some (key item)) := by
  obtain ⟨entry, single, labelled⟩ := resumes.label_shown visible
  rw [entries_concat, single]
  simp [following, labelled]

variable {rest : List α}

/-- A page that goes on is full, and goes on behind its last entry. -/
theorem exists_split_of_following (positive : 0 < limit) {next : Option K}
    (goes : following key (page mark limit rest) = some next) :
    ∃ before item after entry, rest = before ++ item :: after ∧ after ≠ [] ∧
      shown mark (before.filterMap mark) item = [entry] ∧
      (entries mark [] (before ++ [item])).length = limit ∧ next = some (label key entry) := by
  -- A page names a successor only when entries are left over.
  have past : overflows mark [] limit rest = true := by
    cases past : overflows mark [] limit rest with
    | true => rfl
    | false => simp [following, page, past] at goes
  obtain ⟨before, item, after, rfl, left, visible, filled⟩ :=
    exists_split_of_overflows mark positive past
  rw [List.nil_append] at visible
  -- The item that fills the page shows one entry: itself, or its group for the first time.
  obtain ⟨entry, single⟩ : ∃ entry, shown mark (before.filterMap mark) item = [entry] := by
    rcases shown_cases visible with ⟨_, single⟩ | ⟨_, _, _, single⟩ <;> exact ⟨_, single⟩
  rw [page_of_split mark left filled, entries_concat, single] at goes
  simp only [following, if_true, List.getLast?_concat, Option.map_some, Option.some.injEq] at goes
  exact ⟨before, item, after, entry, rfl, left, single, filled, goes.symm⟩

variable (grouping : Grouping key mark) (sorted : list.Pairwise fun left right => key left ≤ key right)

include grouping sorted

/-- A marker that resumes cuts the listing behind its item and what else has the key of that item. -/
theorem Cut.resume (cut : Cut key mark list consumed rest marker)
    (split : rest = before ++ item :: after) (resumes : Resumes key mark item after) :
    ∃ dropped left, after = dropped ++ left ∧
      Cut key mark list (consumed ++ before ++ item :: dropped) left (some (key item)) ∧
      Hidden mark item dropped := by
  have whole : list = (consumed ++ before) ++ item :: after := by
    rw [cut.whole, split, List.append_assoc]
  rw [whole] at sorted
  obtain ⟨_, sortedTail, earlier⟩ := List.pairwise_append.mp sorted
  obtain ⟨least, sortedAfter⟩ := List.pairwise_cons.mp sortedTail
  have tail := append_behind sortedAfter (key item)
  refine ⟨_, behind key after (some (key item)), tail, ⟨?_, ?_, ?_⟩, ?_⟩
  · rw [List.append_assoc, List.cons_append, ← tail, whole]
  · -- Nothing up to the item is behind its key.
    have front : behind key (consumed ++ before) (some (key item)) = [] := by
      apply List.filter_eq_nil_iff.mpr
      intro other mem
      simpa using earlier other mem item List.mem_cons_self
    rw [whole]
    unfold behind at front ⊢
    rw [List.filter_append, front]
    simp
  · -- A group on both sides would hold the item, and so end with it.
    intro earlierItem mem other left name marked alsoMarked
    obtain ⟨inAfter, above⟩ := mem_behind_some.mp left
    have below : key earlierItem ≤ key item := by
      rw [List.mem_append, List.mem_cons] at mem
      rcases mem with before | same | dropped
      · exact earlier earlierItem before item List.mem_cons_self
      · rw [same]
      · exact of_decide_eq_true (List.mem_filter.mp dropped).2
    have held : mark item = some name :=
      grouping.between alsoMarked ((grouping.front marked).trans below) above.le
    simp only [Resumes, held] at resumes
    have itemKey := resumes item List.mem_cons_self held
    have otherKey := resumes other (List.mem_cons_of_mem item inAfter) alsoMarked
    rw [itemKey, otherKey] at above
    exact lt_irrefl name above
  · intro other mem
    obtain ⟨inAfter, low⟩ := List.mem_filter.mp mem
    have same : key other = key item := le_antisymm (of_decide_eq_true low) (least other inAfter)
    unfold Resumes at resumes
    cases marked : mark item with
    | none =>
      simp only [marked] at resumes
      exact absurd same (resumes other inAfter).ne'
    | some name => exact ⟨name, rfl, grouping.mark_eq marked same⟩

variable {ε : Type}

/-- The pages of a seamless listing show all its entries, from any cut at the end of a page. -/
theorem Cut.exists_chain (positive : 0 < limit) (seamless : Seamless key mark limit list)
    (cut : Cut key mark list consumed rest marker)
    (full : limit ∣ (entries mark [] consumed).length) :
    ∃ pages, ListChain key mark ε limit list marker pages ∧
      pages.flatMap Page.entries = entries mark [] rest := by
  -- Every page takes an item away from the rest.
  induction counted : rest.length using Nat.strongRecOn generalizing consumed rest marker with
  | ind size ih =>
    have fetched : pageBehind key mark limit list marker = page mark limit rest := by
      rw [pageBehind, cut.resumed]
    cases past : overflows mark [] limit rest with
    | false =>
      have all := length_entries_le_of_not_overflows mark past
      refine ⟨[page mark limit rest], .last (congrArg _ fetched) ?_, ?_⟩
      · simp [following, page, past]
      · simp [page, List.take_of_length_le all]
    | true =>
      obtain ⟨before, item, after, rfl, left, visible, filled⟩ :=
        exists_split_of_overflows mark positive past
      rw [List.nil_append] at visible
      -- The page ends in the listing where it ends in the rest.
      have whole : list = (consumed ++ before) ++ item :: after := by
        rw [cut.whole, List.append_assoc]
      have front : entries mark [] (consumed ++ before ++ [item])
          = entries mark [] consumed ++ entries mark [] (before ++ [item]) := by
        have grouped : before ++ item :: after = (before ++ [item]) ++ after := by simp
        rw [List.append_assoc]
        exact (grouped ▸ cut).entries_front
      have resumes : Resumes key mark item after := by
        apply seamless _ item after whole left (cut.shown_front ▸ visible)
        rw [front, List.length_append, filled]
        exact Nat.dvd_add full (Nat.dvd_refl limit)
      have paged := page_of_split mark left filled
      obtain ⟨dropped, remaining, rfl, next, hidden⟩ := cut.resume grouping sorted rfl resumes
      have enough : limit ∣ (entries mark [] (consumed ++ before ++ item :: dropped)).length := by
        have regrouped : consumed ++ before ++ item :: dropped
            = (consumed ++ before ++ [item]) ++ dropped := by simp
        rw [regrouped, entries_hidden (by simp) hidden, front, List.length_append, filled]
        exact Nat.dvd_add full (Nat.dvd_refl limit)
      have smaller : remaining.length < size := by
        rw [← counted]
        simp
        omega
      obtain ⟨pages, chain, all⟩ := ih remaining.length smaller next enough rfl
      refine ⟨_ :: pages, .more (congrArg _ (fetched.trans paged))
        (following_of_split visible resumes) chain, ?_⟩
      have parts := (List.append_nil remaining ▸ next).entries_rest hidden
      rw [List.flatMap_cons, all, parts]

variable {pages : List (Page α K)}

omit sorted in
/-- Behind a key without a group, a chain shows no item up to that key. -/
theorem Chain.items_above (positive : 0 < limit) {plain : α} (ungrouped : mark plain = none)
    (chain : ListChain key mark ε limit list marker pages)
    (beyond : ∃ bound, marker = some bound ∧ key plain ≤ bound) :
    ∀ item ∈ items (pages.flatMap Page.entries), key plain < key item := by
  have fetches : ∀ {bound : K} {page : Page α K}, key plain ≤ bound →
      (.ok (pageBehind key mark limit list (some bound)) : Except ε _) = .ok page →
      page = Paging.page mark limit (behind key list (some bound)) ∧
      ∀ item ∈ items page.entries, key plain < key item := by
    intro bound page above fetched
    have same : page = Paging.page mark limit (behind key list (some bound)) :=
      (Except.ok.inj fetched).symm
    refine ⟨same, fun item mem => ?_⟩
    rw [same] at mem
    have listed : item ∈ items (entries mark [] (behind key list (some bound))) :=
      ((List.take_sublist _ _).filterMap _).subset mem
    rw [items_entries, List.mem_filter] at listed
    exact lt_of_le_of_lt above (mem_behind_some.mp listed.1).2
  induction chain with
  | last fetched past =>
    obtain ⟨bound, rfl, above⟩ := beyond
    simpa using (fetches above fetched).2
  | more fetched goes _ ih =>
    obtain ⟨bound, rfl, above⟩ := beyond
    obtain ⟨rfl, first⟩ := fetches above fetched
    obtain ⟨before, item, after, entry, split, _, single, _, rfl⟩ :=
      exists_split_of_following positive goes
    -- The item that ends the page is behind the key, and so is its marker.
    have inside : item ∈ behind key list (some bound) := by
      rw [split]
      simp
    have behindKey : key plain < key item := lt_of_le_of_lt above (mem_behind_some.mp inside).2
    have later : key plain ≤ label key entry := by
      rcases shown_single_cases single with ⟨_, rfl⟩ | ⟨name, marked, _, rfl⟩
      · exact behindKey.le
      · -- A group that begins before the key and goes on behind it would hold it.
        by_contra low
        have held := grouping.between marked (le_of_not_ge low) behindKey.le
        rw [ungrouped] at held
        exact Option.some_ne_none name held.symm
    have rest := ih ⟨_, rfl, later⟩
    intro other mem
    rw [List.flatMap_cons, items_append, List.mem_append] at mem
    exact mem.elim (first other) (rest other)

/-- Behind the name of a group, a chain shows that group if any of its items is left. -/
theorem Chain.mem_groups (positive : 0 < limit) {name : K}
    (chain : ListChain key mark ε limit list (some name) pages) {other : α} (mem : other ∈ list)
    (marked : mark other = some name) (above : name < key other) :
    name ∈ groups (pages.flatMap Page.entries) := by
  have left : other ∈ behind key list (some name) := mem_behind_some.mpr ⟨mem, above⟩
  have first : name ∈ groups (pageBehind key mark limit list (some name)).entries := by
    unfold pageBehind page
    have sortedLeft : (behind key list (some name)).Pairwise fun left right => key left ≤ key right :=
      sorted.filter _
    cases split : behind key list (some name) with
    | nil => simp [split] at left
    | cons head tail =>
      -- The first item left is between the name and the item, and so in the group.
      have headLeft : head ∈ behind key list (some name) := by simp [split]
      have headBelow : key head ≤ key other := by
        rw [split] at left sortedLeft
        cases List.mem_cons.mp left with
        | inl same => rw [same]
        | inr inside => exact (List.pairwise_cons.mp sortedLeft).1 other inside
      have headMarked : mark head = some name :=
        grouping.between marked (mem_behind_some.mp headLeft).2.le headBelow
      obtain ⟨limit, rfl⟩ := Nat.exists_eq_add_of_lt positive
      rw [entries, shown_of_not_mem headMarked List.not_mem_nil]
      simp
  cases chain with
  | last fetched past =>
    cases fetched
    simpa using first
  | more fetched goes rest =>
    cases fetched
    rw [List.flatMap_cons, groups_append]
    exact List.mem_append_left _ first

/-- A chain that shows everything once resumes where its first page ends. -/
theorem Cut.resumes_of_chain (positive : 0 < limit) {entry : α ⊕ K}
    (cut : Cut key mark list consumed (before ++ item :: after) marker)
    (single : shown mark (before.filterMap mark) item = [entry])
    (chain : ListChain key mark ε limit list (some (label key entry)) pages)
    (allItems : (items (entries mark [] (before ++ [item])) ++
      items (pages.flatMap Page.entries)).Perm (items (entries mark [] (before ++ item :: after))))
    (allGroups : (groups (entries mark [] (before ++ [item])) ++
      groups (pages.flatMap Page.entries)).Perm
        (groups (entries mark [] (before ++ item :: after)))) :
    Resumes key mark item after := by
  have inList : ∀ other ∈ item :: after, other ∈ list := by
    intro other mem
    rw [cut.whole]
    exact List.mem_append_right _ (List.mem_append_right _ mem)
  have least : ∀ other ∈ after, key item ≤ key other := by
    have tail := (List.pairwise_append.mp (cut.whole ▸ sorted)).2.1
    exact (List.pairwise_cons.mp (List.pairwise_append.mp tail).2.1).1
  unfold Resumes
  rcases shown_single_cases single with ⟨plain, rfl⟩ | ⟨name, marked, _, rfl⟩
  · simp only [plain]
    intro other mem
    -- An item with the same key would be missing from the rest of the chain.
    apply lt_of_le_of_ne (least other mem)
    intro sameKey
    have whole : before ++ item :: after = (before ++ [item]) ++ after := by simp
    rw [whole, items_entries, items_entries, List.filter_append _ after,
      List.perm_append_left_iff] at allItems
    have otherPlain : mark other = none := Option.eq_none_iff_forall_ne_some.mpr fun _ marked =>
      Option.some_ne_none _ ((grouping.mark_eq marked sameKey).symm.trans plain)
    have listed : other ∈ after.filter fun item => (mark item).isNone :=
      List.mem_filter.mpr ⟨mem, by simp [otherPlain]⟩
    have above := chain.items_above grouping positive plain ⟨_, rfl, le_refl _⟩ other
      (allItems.symm.subset listed)
    exact absurd sameKey above.ne
  · simp only [marked]
    intro other mem alsoMarked
    -- An item behind the name would show the group again.
    by_contra ne
    have above : name < key other := lt_of_le_of_ne (grouping.front alsoMarked) (Ne.symm ne)
    have again := chain.mem_groups grouping sorted positive (inList other mem) alsoMarked above
    have once : name ∈ groups (entries mark [] (before ++ [item])) := by
      rw [entries_concat, single, groups_append]
      simp
    have unique := allGroups.symm.nodup (groups_entries_nodup _ _ _)
    exact (List.nodup_append.mp unique).2.2 name once name again rfl

omit grouping sorted in
/-- A listing is seamless if its first page resumes and what is left is seamless. -/
theorem Cut.seamless {left : List α}
    (next : Cut key mark list (consumed ++ before ++ item :: dropped) left (some (key item)))
    (hidden : Hidden mark item dropped) (visible : shown mark (before.filterMap mark) item ≠ [])
    (filled : (entries mark [] (before ++ [item])).length = limit)
    (resumes : Resumes key mark item (dropped ++ left)) (seamless : Seamless key mark limit left) :
    Seamless key mark limit (before ++ item :: (dropped ++ left)) := by
  intro front other back split leftOver shows full
  -- Behind the first page, the end of a page in the listing is one in what is left.
  have later : ∀ middle, front = before ++ item :: (dropped ++ middle) →
      left = middle ++ other :: back → Resumes key mark other back := by
    rintro middle rfl rfl
    have regrouped : before ++ item :: (dropped ++ middle) = (before ++ item :: dropped) ++ middle := by
      simp
    have cut : middle ++ other :: back = (middle ++ [other]) ++ back := by simp
    have parts := (cut ▸ next).entries_rest hidden
    apply seamless middle other back rfl leftOver
    · rw [regrouped, List.filterMap_append] at shows
      exact shown_ne_nil_of_append shows
    · have joined : before ++ item :: (dropped ++ middle) ++ [other]
          = before ++ item :: (dropped ++ (middle ++ [other])) := by simp
      rw [joined, parts, List.length_append, filled] at full
      exact (Nat.dvd_add_right (Nat.dvd_refl limit)).mp full
  rcases List.append_eq_append_iff.mp split with ⟨middle, ahead, tail⟩ | ⟨middle, ahead, tail⟩
  · cases middle with
    | nil =>
      obtain ⟨rfl, rfl⟩ := List.cons.inj tail
      exact resumes
    | cons head middle =>
      obtain ⟨rfl, inside⟩ := List.cons.inj tail
      rcases List.append_eq_append_iff.mp inside with ⟨middle, rfl, left⟩ | ⟨part, rfl, left⟩
      · exact later middle ahead left
      · cases part with
        | nil => exact later [] (by simpa using ahead) (by simpa using left.symm)
        | cons head part =>
          obtain ⟨rfl, _⟩ := List.cons.inj left
          -- An item that is dropped is not shown.
          obtain ⟨name, itemMarked, otherMarked⟩ := hidden other (by simp)
          have known : name ∈ front.filterMap mark :=
            List.mem_filterMap.mpr ⟨item, by simp [ahead], itemMarked⟩
          have named : mark other = some name := otherMarked
          exact absurd (shown_of_mem named known) shows
  · cases middle with
    | nil =>
      obtain ⟨rfl, rfl⟩ := List.cons.inj tail
      simp only [List.append_nil] at ahead
      exact resumes
    | cons head middle =>
      obtain ⟨rfl, _⟩ := List.cons.inj tail
      -- Before its last item the first page is not full.
      have prior : before = (front ++ [other]) ++ middle := by simpa using ahead
      have atLeast := List.length_pos_iff.mpr visible
      have some_entry := List.length_pos_iff.mpr shows
      have short : (entries mark [] (front ++ [other])).length < limit := by
        have grown : (entries mark [] before).length
            = (entries mark [] (front ++ [other])).length + (entries mark
              ([] ++ (front ++ [other]).filterMap mark) middle).length := by
          rw [prior, entries_append, List.length_append]
        rw [entries_concat, List.length_append] at filled
        omega
      have shows_some : 0 < (entries mark [] (front ++ [other])).length := by
        rw [entries_concat, List.length_append]
        omega
      exact absurd (Nat.le_of_dvd shows_some full) (Nat.not_le.mpr short)

/-- A chain that shows everything once is seamless. -/
theorem Cut.seamless_of_chain (positive : 0 < limit)
    (chain : ListChain key mark ε limit list marker pages)
    (cut : Cut key mark list consumed rest marker)
    (allItems : (items (pages.flatMap Page.entries)).Perm (items (entries mark [] rest)))
    (allGroups : (groups (pages.flatMap Page.entries)).Perm (groups (entries mark [] rest)))
    : Seamless key mark limit rest := by
  induction chain generalizing consumed rest with
  | @last marker page fetched past =>
    -- A page that goes nowhere is never full before the listing ends.
    intro before item after split left visible full
    subst split
    have fits : overflows mark [] limit (before ++ item :: after) = false := by
      have same : page = Paging.page mark limit (before ++ item :: after) := by
        rw [← cut.resumed]
        exact (Except.ok.inj fetched).symm
      rw [same] at past
      cases fits : overflows mark [] limit (before ++ item :: after) with
      | false => rfl
      | true => simp [following, Paging.page, fits] at past
    have shows : 0 < (entries mark [] (before ++ [item])).length := by
      rw [entries_concat, List.length_append]
      have some_entry := List.length_pos_iff.mpr visible
      omega
    have overflow := overflows_of_split mark left (Nat.le_of_dvd shows full)
    rw [fits] at overflow
    cases overflow
  | @more marker next page pages fetched goes chain ih =>
    obtain rfl : page = Paging.page mark limit rest := by
      rw [← cut.resumed]
      exact (Except.ok.inj fetched).symm
    obtain ⟨before, item, after, entry, rfl, left, single, filled, rfl⟩ :=
      exists_split_of_following positive goes
    have paged := page_of_split mark left filled
    rw [List.flatMap_cons, items_append, paged] at allItems
    rw [List.flatMap_cons, groups_append, paged] at allGroups
    have resumes := cut.resumes_of_chain grouping sorted positive single chain allItems allGroups
    have visible := single.trans_ne (List.cons_ne_nil entry [])
    obtain ⟨sameEntry, alsoSingle, labelled⟩ := resumes.label_shown visible
    obtain rfl : sameEntry = entry := List.head_eq_of_cons_eq (alsoSingle.symm.trans single)
    obtain ⟨dropped, remaining, rfl, further, hidden⟩ := cut.resume grouping sorted rfl resumes
    have parts := (List.append_nil remaining ▸ further).entries_rest hidden
    apply further.seamless hidden visible filled resumes
    -- What the rest of the chain shows is what is left.
    rw [parts, items_append, List.perm_append_left_iff] at allItems
    rw [parts, groups_append, List.perm_append_left_iff] at allGroups
    exact ih (labelled ▸ further) allItems allGroups

/-- The pages of a listing show everything once exactly if the listing is seamless. -/
theorem exists_complete_chain_iff (positive : 0 < limit) :
    (∃ pages, ListChain key mark ε limit list none pages ∧
      (items (pages.flatMap Page.entries)).Perm (list.filter fun item => (mark item).isNone) ∧
      (groups (pages.flatMap Page.entries)).Perm (list.filterMap mark).dedup) ↔
    Seamless key mark limit list := by
  have shownItems := items_entries mark [] list
  have shownGroups := groups_entries_perm mark list
  -- In both directions what the pages show is compared with the entries of the whole list.
  constructor
  · rintro ⟨pages, chain, allItems, allGroups⟩
    rw [← shownItems] at allItems
    exact (Cut.start list).seamless_of_chain grouping sorted positive chain allItems
      (allGroups.trans shownGroups.symm)
  · intro seamless
    obtain ⟨pages, chain, all⟩ := (Cut.start list).exists_chain grouping sorted positive seamless
      (Nat.dvd_zero limit)
    rw [← shownItems]
    exact ⟨pages, chain, all ▸ .refl _, all ▸ shownGroups⟩

omit sorted in
/-- With distinct keys, only the item itself and the next one matter to where a page goes on. -/
theorem resumes_iff_of_strict {next : α}
    (strict : (item :: next :: after).Pairwise fun left right => key left < key right) :
    Resumes key mark item (next :: after) ↔ mark item = none ∨
      (mark item = some (key item) ∧ mark next ≠ some (key item)) := by
  obtain ⟨above, tail⟩ := List.pairwise_cons.mp strict
  have nextAbove : key item < key next := above next List.mem_cons_self
  unfold Resumes
  cases marked : mark item with
  | none => simpa using above
  | some name =>
    simp only [reduceCtorEq, false_or, Option.some.injEq]
    constructor
    · intro ends
      have itself : key item = name := ends item List.mem_cons_self marked
      refine ⟨itself.symm, fun nextMarked => ?_⟩
      have same := ends next (by simp) (itself ▸ nextMarked)
      rw [itself, same] at nextAbove
      exact lt_irrefl name nextAbove
    · rintro ⟨rfl, apart⟩ other mem otherMarked
      -- A later member of the group would have the next item in between.
      have notAfter : ∀ later ∈ next :: after, mark later ≠ some (key item) := by
        intro later inside laterMarked
        cases List.mem_cons.mp inside with
        | inl same => exact apart (same ▸ laterMarked)
        | inr further =>
          have beyond : key next < key later := (List.pairwise_cons.mp tail).1 later further
          exact apart (grouping.between laterMarked nextAbove.le beyond.le)
      cases List.mem_cons.mp mem with
      | inl same => rw [same]
      | inr inside => exact absurd otherMarked (notAfter other inside)

omit grouping sorted in
/-- Without groups, a listing is seamless if no page ends between items of the same key. -/
theorem seamless_of_none_iff (sorted : list.Pairwise fun left right => key left ≤ key right) :
    Seamless key (fun _ => none) limit list ↔
      ∀ before item next after, list = before ++ item :: next :: after →
        limit ∣ before.length + 1 → key item ≠ key next := by
  -- Without groups every item is an entry of its own.
  have count : ∀ before (item : α), (entries (fun _ => none : α → Option K) []
      (before ++ [item])).length = before.length + 1 := by
    intro before item
    simp [entries_of_none]
  constructor
  · intro seamless before item next after split full
    have resumes := seamless before item (next :: after) split (by simp) (by simp [shown])
      (by rw [count]; exact full)
    exact (resumes next (by simp)).ne
  · intro apart before item after split left _ full
    cases after with
    | nil => exact absurd rfl left
    | cons next after =>
      rw [count] at full
      have ne := apart before item next after split full
      rw [split] at sorted
      obtain ⟨least, tail⟩ := List.pairwise_cons.mp (List.pairwise_append.mp sorted).2.1
      -- In a sorted list it is enough to pass the item right behind the cut.
      have first : key item < key next := lt_of_le_of_ne (least next (by simp)) ne
      intro other mem
      cases List.mem_cons.mp mem with
      | inl same => exact same ▸ first
      | inr inside => exact lt_of_lt_of_le first ((List.pairwise_cons.mp tail).1 other inside)

omit grouping sorted in
/-- Without groups, there are items of the list on the pages and nothing else. -/
theorem Chain.shows_of_none (chain : ListChain key (fun _ => none) ε limit list marker pages) :
    groups (pages.flatMap Page.entries) = [] ∧ items (pages.flatMap Page.entries) ⊆ list := by
  rw [groups_flatMap, items_flatMap]
  constructor
  · rw [List.flatMap_eq_nil_iff]
    intro page mem
    obtain ⟨marker, fetched⟩ := chain.fetched_of_mem mem
    rw [← Except.ok.inj fetched, pageBehind, page_of_none fun _ => rfl, groups_map_inl]
  · intro item shown
    obtain ⟨page, mem, shown⟩ := List.mem_flatMap.mp shown
    obtain ⟨marker, fetched⟩ := chain.fetched_of_mem mem
    rw [← Except.ok.inj fetched, pageBehind, page_of_none fun _ => rfl, items_map_inl] at shown
    exact (List.mem_filter.mp (List.mem_of_mem_take shown)).1

omit grouping sorted in
/-- Without groups, the pages come to an end. -/
theorem exists_chain_of_none {ε : Type} (positive : 0 < limit) (marker : Option K) :
    ∃ pages, ListChain key (fun _ => none) ε limit list marker pages := by
  -- Every page leaves fewer items behind its marker.
  induction counted : (behind key list marker).length using Nat.strongRecOn generalizing marker with
  | ind size ih =>
    by_cases past : limit < (behind key list marker).length
    · have filled : (behind key list marker).take limit ≠ [] := by
        rw [List.ne_nil_iff_length_pos, List.length_take]
        omega
      obtain ⟨item, last⟩ : ∃ item, ((behind key list marker).take limit).getLast? = some item :=
        ⟨_, List.getLast?_eq_some_getLast filled⟩
      have there : item ∈ behind key list marker := List.mem_of_mem_take (List.mem_of_getLast? last)
      have narrower : behind key list (some (key item)) =
          (behind key list marker).filter fun other => decide (key item < key other) := by
        rw [behind, behind, List.filter_filter]
        apply List.filter_congr
        intro other _
        -- What is behind the item is behind the marker too.
        have above := (List.mem_filter.mp there).2
        cases marker with
        | none => simp
        | some bound =>
          simp only [Option.all_some, decide_eq_true_eq] at above ⊢
          by_cases later : key item < key other
          · simp [later, lt_trans above later]
          · simp [later]
      have fewer : (behind key list (some (key item))).length < size := by
        rw [narrower, ← counted]
        exact List.length_filter_lt_length_iff_exists.mpr ⟨item, there, by simp⟩
      obtain ⟨pages, chain⟩ := ih _ fewer (some (key item)) rfl
      refine ⟨_, .more rfl ?_ chain⟩
      rw [following, pageBehind, page_of_none fun _ => rfl, if_pos (decide_eq_true past),
        List.getLast?_map, last]
      rfl
    · refine ⟨[_], .last rfl ?_⟩
      rw [following, pageBehind, page_of_none fun _ => rfl]
      simp [past]

omit grouping in
/-- Without groups, the pages show all items exactly if the listing is seamless. -/
theorem Chain.perm_iff_of_none (positive : 0 < limit)
    (chain : ListChain key (fun _ => none) ε limit list none pages) :
    (items (pages.flatMap Page.entries)).Perm list ↔ Seamless key (fun _ => none) limit list := by
  have entriesAre : entries (fun _ => none : α → Option K) [] list = list.map .inl :=
    entries_of_none (fun _ => rfl) [] list
  constructor
  · intro all
    apply (Cut.start list).seamless_of_chain Grouping.none sorted positive chain
    · rw [entriesAre, items_map_inl]
      exact all
    · rw [chain.shows_of_none.1, entriesAre, groups_map_inl]
  · intro seamless
    obtain ⟨others, other, all⟩ := (Cut.start list).exists_chain Grouping.none sorted positive
      seamless (Nat.dvd_zero limit)
    rw [chain.unique other, all, entriesAre, items_map_inl]

omit grouping in
/-- Without groups, the pages show all items in order exactly if the listing is seamless. -/
theorem exists_ordered_chain_iff (positive : 0 < limit) :
    (∃ pages, ListChain key (fun _ => none) ε limit list none pages ∧
      items (pages.flatMap Page.entries) = list) ↔ Seamless key (fun _ => none) limit list := by
  have entriesAre : entries (fun _ => none : α → Option K) [] list = list.map .inl :=
    entries_of_none (fun _ => rfl) [] list
  constructor
  · rintro ⟨pages, chain, all⟩
    exact (chain.perm_iff_of_none sorted positive).mp (all ▸ .refl _)
  · intro seamless
    obtain ⟨pages, chain, all⟩ := (Cut.start list).exists_chain Grouping.none sorted positive seamless
      (Nat.dvd_zero limit)
    exact ⟨pages, chain, by rw [all, entriesAre, items_map_inl]⟩

end

end Paging
