import Mathlib.Data.List.Dedup

/-! Listings that show some items as groups: the entries of a listing, and the pages it is cut to. -/

namespace Paging

variable {α β : Type} [DecidableEq β] (mark : α → Option β)

/-- What one item adds to a listing, when some groups have been shown. -/
def shown (seen : List β) (item : α) : List (α ⊕ β) :=
  match mark item with
  | none => [.inl item]
  | some group => if group ∈ seen then [] else [.inr group]

/-- The entries of a listing: every item without a group, and every group at its first item. -/
def entries (seen : List β) : List α → List (α ⊕ β)
  | [] => []
  | item :: rest => shown mark seen item ++ entries (seen ++ (mark item).toList) rest

/-- Whether an item is left when no entry fits any more. -/
def overflows (seen : List β) (limit : Nat) (list : List α) : Bool :=
  -- The last item is the last to be left past, so the entries before it have to fill the page.
  !list.isEmpty && decide (limit ≤ (entries mark seen list.dropLast).length)

/-- The items among some entries. -/
def items (list : List (α ⊕ β)) : List α := list.filterMap Sum.getLeft?

/-- The groups among some entries. -/
def groups (list : List (α ⊕ β)) : List β := list.filterMap Sum.getRight?

/-- One page of a listing. -/
structure Page (α β : Type) where
  entries : List (α ⊕ β)
  truncated : Bool

/-- The first page of a listing. -/
def page (limit : Nat) (list : List α) : Page α β :=
  ⟨(entries mark [] list).take limit, overflows mark [] limit list⟩

section

omit [DecidableEq β]

@[simp] theorem items_nil : items ([] : List (α ⊕ β)) = [] := rfl

@[simp] theorem groups_nil : groups ([] : List (α ⊕ β)) = [] := rfl

@[simp] theorem items_inl (item : α) (rest : List (α ⊕ β)) :
    items (.inl item :: rest) = item :: items rest := rfl

@[simp] theorem items_inr (group : β) (rest : List (α ⊕ β)) :
    items (.inr group :: rest) = items rest := rfl

@[simp] theorem groups_inl (item : α) (rest : List (α ⊕ β)) :
    groups (.inl item :: rest) = groups rest := rfl

@[simp] theorem groups_inr (group : β) (rest : List (α ⊕ β)) :
    groups (.inr group :: rest) = group :: groups rest := rfl

@[simp] theorem items_append (first second : List (α ⊕ β)) :
    items (first ++ second) = items first ++ items second := List.filterMap_append

@[simp] theorem groups_append (first second : List (α ⊕ β)) :
    groups (first ++ second) = groups first ++ groups second := List.filterMap_append

@[simp] theorem items_map_inl (list : List α) : items (list.map (.inl : α → α ⊕ β)) = list := by
  induction list with
  | nil => rfl
  | cons item rest ih => rw [List.map_cons, items_inl, ih]

@[simp] theorem groups_map_inl (list : List α) : groups (list.map (.inl : α → α ⊕ β)) = [] := by
  induction list with
  | nil => rfl
  | cons item rest ih => rw [List.map_cons, groups_inl, ih]

/-- The items on several pages. -/
theorem items_flatMap {γ : Type} (pages : List γ) (on : γ → List (α ⊕ β)) :
    items (pages.flatMap on) = pages.flatMap fun page => items (on page) := List.filterMap_flatMap

/-- The groups on several pages. -/
theorem groups_flatMap {γ : Type} (pages : List γ) (on : γ → List (α ⊕ β)) :
    groups (pages.flatMap on) = pages.flatMap fun page => groups (on page) := List.filterMap_flatMap

/-- Every entry is an item or a group. -/
theorem length_items_add_length_groups (list : List (α ⊕ β)) :
    (items list).length + (groups list).length = list.length := by
  induction list with
  | nil => rfl
  | cons entry rest ih =>
    cases entry with
    | inl item =>
      simp only [items_inl, groups_inl, List.length_cons]
      omega
    | inr group =>
      simp only [items_inr, groups_inr, List.length_cons]
      omega

end

variable (seen : List β) (list : List α)

theorem length_shown_le (item : α) : (shown mark seen item).length ≤ 1 := by
  unfold shown
  split
  · exact Nat.le_refl 1
  · split <;> simp

section

variable {mark}

variable {seen : List β} {item : α}

theorem shown_of_none (plain : mark item = none) : shown mark seen item = [.inl item] := by
  rw [shown, plain]

theorem shown_of_mem {group : β} (marked : mark item = some group) (old : group ∈ seen) :
    shown mark seen item = [] := by
  rw [shown, marked]
  exact if_pos old

theorem shown_of_not_mem {group : β} (marked : mark item = some group) (fresh : group ∉ seen) :
    shown mark seen item = [.inr group] := by
  rw [shown, marked]
  exact if_neg fresh

/-- An item that is shown is shown as itself, or as its group. -/
theorem shown_cases (visible : shown mark seen item ≠ []) :
    (mark item = none ∧ shown mark seen item = [.inl item]) ∨
      ∃ group, mark item = some group ∧ group ∉ seen ∧ shown mark seen item = [.inr group] := by
  cases marked : mark item with
  | none => exact .inl ⟨rfl, shown_of_none marked⟩
  | some group =>
    have fresh : group ∉ seen := fun old => visible (shown_of_mem marked old)
    exact .inr ⟨group, rfl, fresh, shown_of_not_mem marked fresh⟩

theorem shown_single_cases {entry : α ⊕ β} (single : shown mark seen item = [entry]) :
    (mark item = none ∧ entry = .inl item) ∨
      ∃ group, mark item = some group ∧ group ∉ seen ∧ entry = .inr group := by
  have visible := single.trans_ne (List.cons_ne_nil entry [])
  simpa only [single, List.cons.injEq, and_true] using shown_cases visible

/-- An item is shown unless its group has been. -/
theorem shown_ne_nil_iff (seen : List β) (item : α) :
    shown mark seen item ≠ [] ↔ ∀ group, mark item = some group → group ∉ seen := by
  constructor
  · intro visible group marked old
    exact visible (shown_of_mem marked old)
  · intro fresh
    cases marked : mark item with
    | none => simp [shown_of_none marked]
    | some group => simp [shown_of_not_mem marked (fresh group marked)]

/-- Groups that do not mark an item do not matter to it. -/
theorem shown_fresh {more : List β} (fresh : ∀ group ∈ seen, mark item ≠ some group) :
    shown mark (seen ++ more) item = shown mark more item := by
  cases marked : mark item with
  | none => rw [shown_of_none marked, shown_of_none marked]
  | some group =>
    have absent : group ∉ seen := fun mem => fresh group mem marked
    simp [shown, marked, absent]

/-- What is shown although some groups have been is shown when fewer have been. -/
theorem shown_ne_nil_of_append {more : List β} (visible : shown mark (seen ++ more) item ≠ []) :
    shown mark more item ≠ [] := by
  cases marked : mark item with
  | none => simp [shown_of_none marked]
  | some group =>
    intro hidden
    by_cases old : group ∈ more
    · exact visible (shown_of_mem marked (List.mem_append_right seen old))
    · simp [shown_of_not_mem marked old] at hidden

end

/-- A listing of two parts, of which the second knows the groups of the first. -/
theorem entries_append (first second : List α) :
    entries mark seen (first ++ second)
      = entries mark seen first ++ entries mark (seen ++ first.filterMap mark) second := by
  induction first generalizing seen with
  | nil => simp [entries]
  | cons item rest ih =>
    have known : (item :: rest).filterMap mark = (mark item).toList ++ rest.filterMap mark := by
      cases marked : mark item <;> simp [marked]
    rw [List.cons_append, entries, ih, entries, known, List.append_assoc, List.append_assoc]

theorem entries_concat (before : List α) (item : α) :
    entries mark [] (before ++ [item])
      = entries mark [] before ++ shown mark (before.filterMap mark) item := by
  simp [entries_append, entries]

section

variable {mark}

variable {seen : List β}

/-- It only matters which groups have been shown, not in which order. -/
theorem entries_congr {others : List β} (same : ∀ group, group ∈ seen ↔ group ∈ others)
    (list : List α) : entries mark seen list = entries mark others list := by
  induction list generalizing seen others with
  | nil => rfl
  | cons item rest ih =>
    have head : shown mark seen item = shown mark others item := by
      simp only [shown, same]
    have tail : entries mark (seen ++ (mark item).toList) rest
        = entries mark (others ++ (mark item).toList) rest := by
      apply ih
      intro group
      rw [List.mem_append, List.mem_append, same]
    rw [entries, entries, head, tail]

/-- Groups that mark no item of a listing do not matter to it. -/
theorem entries_fresh {list : List α} (more : List β)
    (fresh : ∀ group ∈ seen, ∀ item ∈ list, mark item ≠ some group) :
    entries mark (seen ++ more) list = entries mark more list := by
  induction list generalizing more with
  | nil => rfl
  | cons item rest ih =>
    have head : shown mark (seen ++ more) item = shown mark more item :=
      shown_fresh fun group mem => fresh group mem item List.mem_cons_self
    have tail := ih (more ++ (mark item).toList) fun group mem other inside =>
      fresh group mem other (List.mem_cons_of_mem item inside)
    rw [entries, head, List.append_assoc, tail, entries]

/-- Items of groups that have been shown add nothing. -/
theorem entries_eq_nil {list : List α} (old : ∀ item ∈ list, ∃ group ∈ seen, mark item = some group) :
    entries mark seen list = [] := by
  induction list generalizing seen with
  | nil => rfl
  | cons item rest ih =>
    obtain ⟨group, mem, marked⟩ := old item List.mem_cons_self
    have tail : entries mark (seen ++ (mark item).toList) rest = [] := by
      apply ih
      intro other inside
      obtain ⟨group, mem, marked⟩ := old other (List.mem_cons_of_mem item inside)
      exact ⟨group, List.mem_append_left _ mem, marked⟩
    rw [entries, shown_of_mem marked mem, tail, List.nil_append]

end

/-- The items shown are those without a group, in their order. -/
@[simp] theorem items_entries :
    items (entries mark seen list) = list.filter fun item => (mark item).isNone := by
  induction list generalizing seen with
  | nil => rfl
  | cons item rest ih =>
    rw [entries, items_append, ih]
    cases marked : mark item with
    | none => simp [shown_of_none marked, marked]
    | some group =>
      by_cases old : group ∈ seen
      · simp [shown_of_mem marked old, marked]
      · simp [shown_of_not_mem marked old, marked]

/-- The groups shown are those of the items, unless they have been shown before. -/
theorem mem_groups_entries (group : β) :
    group ∈ groups (entries mark seen list) ↔ group ∉ seen ∧ group ∈ list.filterMap mark := by
  induction list generalizing seen with
  | nil => simp [entries]
  | cons item rest ih =>
    rw [entries, groups_append, List.mem_append, ih]
    cases marked : mark item with
    | none => simp [shown_of_none marked, marked]
    | some other =>
      by_cases old : other ∈ seen
      -- A group that was seen already is not shown, and the one asked for was not seen.
      · have distinct : group ∉ seen → group ≠ other := by
          rintro absent rfl
          exact absent old
        simp only [shown_of_mem marked old, groups_nil, List.not_mem_nil, false_or, Option.toList_some,
          List.mem_append, List.mem_cons, or_false, List.filterMap_cons, marked]
        tauto
      · by_cases same : group = other
        · subst same
          simp [shown_of_not_mem marked old, marked, old]
        · simp [shown_of_not_mem marked old, marked, same]

/-- No group is shown twice. -/
theorem groups_entries_nodup : (groups (entries mark seen list)).Nodup := by
  induction list generalizing seen with
  | nil => simp [entries]
  | cons item rest ih =>
    rw [entries, groups_append]
    cases marked : mark item with
    | none => simpa [shown_of_none marked] using ih seen
    | some group =>
      have tail := ih (seen ++ [group])
      by_cases old : group ∈ seen
      · simpa [shown_of_mem marked old] using tail
      · -- The groups of the rest are shown knowing this one.
        have absent : group ∉ groups (entries mark (seen ++ [group]) rest) := by
          simp [mem_groups_entries]
        have single : groups (shown mark seen item) = [group] := by
          simp [shown_of_not_mem marked old]
        rw [single, Option.toList_some, List.singleton_append]
        exact List.nodup_cons.mpr ⟨absent, tail⟩

/-- The groups shown are those of the items, each once. -/
theorem groups_entries_perm : (groups (entries mark [] list)).Perm (list.filterMap mark).dedup := by
  rw [List.perm_ext_iff_of_nodup (groups_entries_nodup mark [] list) (List.nodup_dedup _)]
  intro group
  simp [mem_groups_entries]

/-! When a page is full, the first item that does not fit ends it. -/

@[simp] theorem overflows_nil (limit : Nat) :
    overflows mark seen limit [] = false := rfl

variable {limit : Nat}

/-- One item takes the place of its entry. -/
theorem overflows_cons (positive : 0 < limit) (seen : List β) (item : α) (rest : List α) :
    overflows mark seen limit (item :: rest) = overflows mark (seen ++ (mark item).toList)
      (limit - (shown mark seen item).length) rest := by
  have one := length_shown_le mark seen item
  cases rest with
  | nil => simp [overflows, entries]; omega
  | cons next rest =>
    simp only [overflows, List.isEmpty_cons, List.dropLast_cons_cons, entries, List.length_append]
    congr 2
    simp only [eq_iff_iff]
    omega

variable {seen : List β}

theorem overflows_congr {others : List β} (same : ∀ group, group ∈ seen ↔ group ∈ others)
    (limit : Nat) (list : List α) :
    overflows mark seen limit list = overflows mark others limit list := by
  rw [overflows, overflows, entries_congr same]

variable {list : List α}

/-- A full page that leaves something ends with the item that fills it. -/
theorem exists_split_of_overflows (positive : 0 < limit)
    (past : overflows mark seen limit list = true) :
    ∃ before item after, list = before ++ item :: after ∧ after ≠ [] ∧
      shown mark (seen ++ before.filterMap mark) item ≠ [] ∧
      (entries mark seen (before ++ [item])).length = limit := by
  induction list generalizing seen limit with
  | nil => simp at past
  | cons head rest ih =>
    rw [overflows_cons mark positive] at past
    have known : ∀ before : List α, seen ++ (head :: before).filterMap mark
        = seen ++ (mark head).toList ++ before.filterMap mark := by
      intro before
      cases marked : mark head <;> simp [marked]
    by_cases last : limit - (shown mark seen head).length = 0
    · -- The page is filled by this item, and the rest is left over.
      have one := length_shown_le mark seen head
      have filled : (shown mark seen head).length = limit := by omega
      refine ⟨[], head, rest, rfl, ?_, ?_, ?_⟩
      · rintro rfl
        simp at past
      · simp only [List.filterMap_nil, List.append_nil]
        intro hidden
        simp [hidden] at filled
        omega
      · simpa [entries] using filled
    · have some_left : 0 < limit - (shown mark seen head).length := by omega
      obtain ⟨before, item, after, split, left, visible, filled⟩ := ih some_left past
      refine ⟨head :: before, item, after, by rw [split, List.cons_append], left, ?_, ?_⟩
      · rw [known]
        exact visible
      · rw [List.cons_append, entries, List.length_append, filled]
        omega

/-- Entries that fill a page before the listing ends leave something past. -/
theorem overflows_of_split {before after : List α} {item : α} (left : after ≠ [])
    (filled : limit ≤ (entries mark [] (before ++ [item])).length) :
    overflows mark [] limit (before ++ item :: after) = true := by
  have whole : before ++ item :: after = (before ++ [item]) ++ after := by simp
  unfold overflows
  rw [whole, List.dropLast_append_of_ne_nil left, entries_append, List.length_append]
  simp
  omega

/-- Up to the item that fills a page, the page shows all entries. -/
theorem page_of_split {before after : List α} {item : α} (left : after ≠ [])
    (filled : (entries mark [] (before ++ [item])).length = limit) :
    page mark limit (before ++ item :: after) = ⟨entries mark [] (before ++ [item]), true⟩ := by
  have whole : before ++ item :: after = (before ++ [item]) ++ after := by simp
  unfold page
  rw [overflows_of_split mark left (Nat.le_of_eq filled.symm), whole, entries_append, List.take_left' filled]

/-- A page that leaves nothing shows all entries. -/
theorem length_entries_le_of_not_overflows (fits : overflows mark seen limit list = false) :
    (entries mark seen list).length ≤ limit := by
  rcases list.eq_nil_or_concat' with rfl | ⟨before, item, rfl⟩
  · simp [entries]
  · have one := length_shown_le mark (seen ++ before.filterMap mark) item
    simp [overflows] at fits
    simp only [entries_append, entries, List.append_nil, List.length_append]
    omega

/-- Without groups, the entries are the items. -/
theorem entries_of_none {mark : α → Option β} (plain : ∀ item, mark item = none) (seen : List β)
    (list : List α) : entries mark seen list = list.map .inl := by
  induction list generalizing seen with
  | nil => rfl
  | cons item rest ih =>
    rw [entries, shown_of_none (plain item), ih, List.map_cons, List.singleton_append]

/-- Without groups, a page is cut off after as many items as fit. -/
theorem page_of_none {mark : α → Option β} (plain : ∀ item, mark item = none) (limit : Nat)
    (list : List α) :
    page mark limit list = ⟨(list.take limit).map .inl, decide (limit < list.length)⟩ := by
  have past : overflows mark [] limit list = decide (limit < list.length) := by
    cases list with
    | nil => simp
    | cons item rest =>
      simp only [overflows, entries_of_none plain, List.isEmpty_cons, Bool.not_false, Bool.true_and,
        List.length_map, List.length_dropLast, List.length_cons, Nat.add_sub_cancel]
      exact decide_eq_decide.mpr Nat.lt_succ_iff.symm
  rw [page, past, entries_of_none plain, List.map_take]

/-- A listing has at most one entry for an item. -/
theorem length_entries_le (seen : List β) (list : List α) :
    (entries mark seen list).length ≤ list.length := by
  induction list generalizing seen with
  | nil => exact Nat.le_refl 0
  | cons item rest ih =>
    have one := length_shown_le mark seen item
    have tail := ih (seen ++ (mark item).toList)
    rw [entries, List.length_append, List.length_cons]
    omega

/-- A listing has an entry for every item exactly if no two items share a group. -/
theorem length_entries_eq_iff (list : List α) :
    (entries mark [] list).length = list.length ↔ (list.filterMap mark).Nodup := by
  have total := length_items_add_length_groups (entries mark [] list)
  rw [items_entries, (groups_entries_perm mark list).length_eq] at total
  -- Items without a group and items with one make up the list.
  have parts : (list.filter fun item => (mark item).isNone).length + (list.filterMap mark).length
      = list.length := by
    clear total
    induction list with
    | nil => rfl
    | cons item rest ih =>
      cases marked : mark item <;> simp [marked] <;> omega
  -- The two lengths differ by the groups that repeat.
  rw [← List.dedup_eq_self]
  constructor
  · intro all
    exact (List.dedup_sublist _).eq_of_length (by omega)
  · intro distinct
    rw [distinct] at total
    omega

/-- Items that add nothing all belong to groups that have been shown. -/
theorem entries_eq_nil_iff (seen : List β) (list : List α) :
    entries mark seen list = [] ↔ ∀ item ∈ list, ∃ group ∈ seen, mark item = some group := by
  refine ⟨fun nothing item mem => ?_, entries_eq_nil⟩
  -- An item with no group, or with a new one, would be shown.
  cases marked : mark item with
  | none =>
    have listed : item ∈ items (entries mark seen list) := by
      rw [items_entries]
      exact List.mem_filter.mpr ⟨mem, by simp [marked]⟩
    simp [nothing] at listed
  | some group =>
    by_cases old : group ∈ seen
    · exact ⟨group, old, rfl⟩
    · have listed : group ∈ groups (entries mark seen list) :=
        (mem_groups_entries mark seen list group).mpr ⟨old, List.mem_filterMap.mpr ⟨item, mem, marked⟩⟩
      simp [nothing] at listed

/-- A page that leaves something past is made of more items than it has room for. -/
theorem overflows_eq_false_of_length_le (short : list.length ≤ limit) :
    overflows mark [] limit list = false := by
  cases list with
  | nil => rfl
  | cons item rest =>
    have bound := length_entries_le mark [] (item :: rest).dropLast
    simp only [List.length_dropLast, List.length_cons] at bound short
    simp [overflows]
    omega

/--
A page of as many items as it has room for is the page of all items exactly if there are no more,
or if those that are more add nothing to a page that is not full.
-/
theorem page_take_iff (limit : Nat) (list : List α) :
    (items (page mark limit (list.take limit)).entries = items (page mark limit list).entries ∧
      groups (page mark limit (list.take limit)).entries = groups (page mark limit list).entries ∧
      (page mark limit (list.take limit)).truncated = (page mark limit list).truncated) ↔
    list.length ≤ limit ∨ (¬ ((list.take limit).filterMap mark).Nodup ∧
      ∀ item ∈ list.drop limit, ∃ group ∈ (list.take limit).filterMap mark,
        mark item = some group) := by
  by_cases short : list.length ≤ limit
  · simp [List.take_of_length_le short, short]
  · have room : (list.take limit).length = limit := by
      rw [List.length_take]
      omega
    have more : list.drop limit ≠ [] := by
      intro nothing
      have length := congrArg List.length nothing
      simp only [List.length_drop, List.length_nil] at length
      omega
    have whole := List.take_append_drop limit list
    generalize list.take limit = front at room whole ⊢
    generalize list.drop limit = back at more whole ⊢
    subst whole
    have fits := length_entries_le mark [] front
    have frontPage : page mark limit front = ⟨entries mark [] front, false⟩ := by
      unfold page
      rw [overflows_eq_false_of_length_le mark (Nat.le_of_eq room), List.take_of_length_le (by omega)]
    have split := entries_append mark [] front back
    rw [List.nil_append] at split
    have room_left : (entries mark [] front).length < limit ↔ ¬ (front.filterMap mark).Nodup := by
      rw [← length_entries_eq_iff]
      omega
    rw [frontPage, ← room_left, ← entries_eq_nil_iff]
    simp only [short, false_or]
    constructor
    · rintro ⟨sameItems, sameGroups, sameTruncated⟩
      -- The page of all items is not truncated either, so it shows all entries.
      have notOver : overflows mark [] limit (front ++ back) = false := sameTruncated.symm
      have all := length_entries_le_of_not_overflows mark notOver
      have wholePage : (page mark limit (front ++ back)).entries
          = entries mark [] front ++ entries mark (front.filterMap mark) back := by
        rw [page, List.take_of_length_le all, split]
      rw [wholePage, items_append, List.self_eq_append_right] at sameItems
      rw [wholePage, groups_append, List.self_eq_append_right] at sameGroups
      have total := length_items_add_length_groups (entries mark (front.filterMap mark) back)
      rw [sameItems, sameGroups] at total
      refine ⟨?_, List.eq_nil_of_length_eq_zero total.symm⟩
      simp [overflows, List.dropLast_append_of_ne_nil more, entries_append] at notOver
      have bound := notOver (fun _ => more)
      omega
    · rintro ⟨notFull, nothing⟩
      rw [nothing, List.append_nil] at split
      have notOver : overflows mark [] limit (front ++ back) = false := by
        have last := entries_append mark [] (front ++ back).dropLast
          [(front ++ back).getLast (by simp [more])]
        rw [List.dropLast_append_getLast, split] at last
        have length := congrArg List.length last
        rw [List.length_append] at length
        simp only [overflows, Bool.and_eq_false_iff, decide_eq_false_iff_not]
        omega
      unfold page
      rw [notOver, split, List.take_of_length_le (by omega)]
      exact ⟨rfl, rfl, rfl⟩

end Paging
