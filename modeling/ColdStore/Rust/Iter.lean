import Mathlib.Data.List.Perm.Basic
import Mathlib.Order.Lattice

/-! Iterator searches, with the element they pick among equals. -/

namespace Rust

variable {α β : Type}

/-- Change the first element that meets a condition. -/
def modifyFirst (condition : α → Bool) (change : α → α) : List α → List α
  | [] => []
  | item :: rest =>
    if condition item then change item :: rest else item :: modifyFirst condition change rest

variable {condition : α → Bool} {change : α → α} {items : List α} {item : α}

/-- The changed element is found where the old one was, if it still meets the condition. -/
theorem find?_modifyFirst (found : items.find? condition = some item)
    (kept : condition (change item) = true) :
    (modifyFirst condition change items).find? condition = some (change item) := by
  induction items with
  | nil => simp at found
  | cons head rest ih =>
    by_cases hit : condition head = true
    · simp only [List.find?_cons_of_pos hit, Option.some.injEq] at found
      subst found
      simp [modifyFirst, hit, kept]
    · rw [List.find?_cons_of_neg hit] at found
      rw [modifyFirst, if_neg hit, List.find?_cons_of_neg hit]
      exact ih found

/-- A search for something else does not notice the change. -/
theorem find?_modifyFirst_other {other : α → Bool}
    (apart : ∀ item, condition item = true → other item = false ∧ other (change item) = false) :
    (modifyFirst condition change items).find? other = items.find? other := by
  induction items with
  | nil => rfl
  | cons head rest ih =>
    by_cases hit : condition head = true
    · simp [modifyFirst, hit, apart head hit]
    · simp only [modifyFirst, if_neg hit, List.find?_cons]
      rw [ih]

/-- Two changes of the same element are one. -/
theorem modifyFirst_modifyFirst (condition : α → Bool) (first second : α → α)
    (kept : ∀ item, condition item = true → condition (first item) = true) (items : List α) :
    modifyFirst condition second (modifyFirst condition first items)
      = modifyFirst condition (second ∘ first) items := by
  induction items with
  | nil => rfl
  | cons head rest ih =>
    by_cases hit : condition head = true
    · simp [modifyFirst, hit, kept head hit]
    · simp [modifyFirst, hit, ih]

/-- Where nothing meets the condition, nothing changes. -/
theorem modifyFirst_of_none (none : ∀ item ∈ items, ¬ condition item = true) :
    modifyFirst condition change items = items := by
  induction items with
  | nil => rfl
  | cons head rest ih =>
    rw [modifyFirst, if_neg (none head List.mem_cons_self),
      ih fun item mem => none item (List.mem_cons_of_mem head mem)]

/-- An element of the changed list was there before, or is the changed one. -/
theorem mem_modifyFirst (mem : item ∈ modifyFirst condition change items) :
    item ∈ items ∨ ∃ old ∈ items, change old = item := by
  induction items with
  | nil => cases mem
  | cons head rest ih =>
    simp only [modifyFirst] at mem
    -- The first element that meets the condition is changed, and no later one.
    split at mem
    · obtain rfl | later := List.mem_cons.mp mem
      · exact .inr ⟨head, List.mem_cons_self, rfl⟩
      · exact .inl (List.mem_cons_of_mem _ later)
    · obtain rfl | later := List.mem_cons.mp mem
      · exact .inl List.mem_cons_self
      · obtain there | ⟨old, there, changed⟩ := ih later
        · exact .inl (List.mem_cons_of_mem _ there)
        · exact .inr ⟨old, List.mem_cons_of_mem _ there, changed⟩

/-- A change that leaves the element as it is leaves the list as it is. -/
theorem modifyFirst_of_same (found : items.find? condition = some item) (same : change item = item) :
    modifyFirst condition change items = items := by
  induction items with
  | nil => rfl
  | cons head rest ih =>
    by_cases hit : condition head = true
    · rw [List.find?_cons_of_pos hit, Option.some.injEq] at found
      rw [modifyFirst, if_pos hit, found, same]
    · rw [List.find?_cons_of_neg hit] at found
      rw [modifyFirst, if_neg hit, ih found]

@[simp] theorem length_modifyFirst (condition : α → Bool) (change : α → α) (items : List α) :
    (modifyFirst condition change items).length = items.length := by
  induction items with
  | nil => rfl
  | cons head rest ih => simp only [modifyFirst]; split <;> simp [ih]

/-- What the change keeps of every item is kept of the list. -/
theorem map_modifyFirst {observe : α → β} (kept : ∀ item, observe (change item) = observe item)
    (items : List α) : (modifyFirst condition change items).map observe = items.map observe := by
  induction items with
  | nil => rfl
  | cons head rest ih => simp only [modifyFirst]; split <;> simp [kept, ih]

/-- Pieces of the given size, as long as the fuel lasts. -/
def chunksWith (size : Nat) : Nat → List α → List (List α)
  | 0, _ => []
  | _, [] => []
  | fuel + 1, item :: rest =>
    (item :: rest).take size :: chunksWith size fuel ((item :: rest).drop size)

/-- A list in pieces of the given size, the last of which may be shorter. -/
def chunks (size : Nat) (items : List α) : List (List α) := chunksWith size items.length items

private theorem flatten_chunksWith {size : Nat} (positive : 0 < size) (fuel : Nat)
    (items : List α) (enough : items.length ≤ fuel) :
    (chunksWith size fuel items).flatten = items := by
  -- Every piece has at least one element, so the fuel lasts to the end.
  induction fuel generalizing items with
  | zero =>
    have empty : items = [] := List.length_eq_zero_iff.mp (by omega)
    simp [empty, chunksWith]
  | succ fuel ih =>
    cases items with
    | nil => rfl
    | cons item rest =>
      have shorter : ((item :: rest).drop size).length ≤ fuel := by
        simp only [List.length_drop, List.length_cons] at enough ⊢
        omega
      rw [chunksWith, List.flatten_cons, ih _ shorter, List.take_append_drop]

/-- The pieces of a list make up the list. -/
theorem flatten_chunks {size : Nat} (positive : 0 < size) (items : List α) :
    (chunks size items).flatten = items := flatten_chunksWith positive _ items (Nat.le_refl _)

theorem length_filterMap_le_of_fewer {fewer more : α → Option β}
    (part : ∀ item ∈ items, fewer item = none ∨ fewer item = more item) :
    (items.filterMap fewer).length ≤ (items.filterMap more).length := by
  rw [List.length_filterMap_eq_countP, List.length_filterMap_eq_countP]
  refine List.countP_mono_left fun item mem found => ?_
  rcases part item mem with none | same
  · simp [none] at found
  · exact same ▸ found

/-- What finds fewer items finds all of them only if it misses none. -/
theorem filterMap_eq_iff_of_fewer {fewer more : α → Option β}
    (part : ∀ item ∈ items, fewer item = none ∨ fewer item = more item) :
    items.filterMap fewer = items.filterMap more ↔ ∀ item ∈ items, fewer item = more item := by
  refine ⟨fun same item mem => ?_, List.filterMap_congr⟩
  rcases part item mem with missed | found
  · cases value : more item with
    | none => exact missed
    | some value' =>
      -- An item that is missed leaves too few, since none is found instead of it.
      obtain ⟨front, back, rfl⟩ := List.append_of_mem mem
      have before := length_filterMap_le_of_fewer fun item inside =>
        part item (List.mem_append_left _ inside)
      have behind := length_filterMap_le_of_fewer fun item inside =>
        part item (List.mem_append_right _ (List.mem_cons_of_mem _ inside))
      have lengths := congrArg List.length same
      rw [List.filterMap_append, List.filterMap_append, List.filterMap_cons_none missed,
        List.filterMap_cons_some value, List.length_append, List.length_append,
        List.length_cons] at lengths
      omega
  · exact found

/-- Of the best element so far and the next one, `pick` keeps one that neither is above. -/
structure Picks (pick : Option α → α → Option α) (under : α → α → Prop) : Prop where
  refl : ∀ item, under item item
  trans : ∀ {low middle high}, under low middle → under middle high → under low high
  first : ∀ item, pick none item = some item
  next : ∀ best item, ∃ kept, pick (some best) item = some kept ∧ (kept = best ∨ kept = item) ∧
    under best kept ∧ under item kept

section

variable {pick : Option α → α → Option α} {under : α → α → Prop} (picks : Picks pick under)

include picks

theorem Picks.foldl_some (items : List α) (best : α) :
    ∃ kept, items.foldl pick (some best) = some kept ∧ kept ∈ best :: items ∧
      ∀ item ∈ best :: items, under item kept := by
  -- The best one so far only ever moves to an element that it is under.
  induction items generalizing best with
  | nil => exact ⟨best, rfl, List.mem_cons_self, by simpa using picks.refl best⟩
  | cons item rest ih =>
    obtain ⟨next, picked, one, below, beside⟩ := picks.next best item
    obtain ⟨kept, found, place, all⟩ := ih next
    have reached := all next List.mem_cons_self
    refine ⟨kept, by rw [List.foldl_cons, picked, found], ?_, fun other mem => ?_⟩
    · rcases List.mem_cons.mp place with rfl | later
      · rcases one with rfl | rfl <;> simp
      · simp [later]
    · rcases List.mem_cons.mp mem with rfl | mem
      · exact picks.trans below reached
      · rcases List.mem_cons.mp mem with rfl | later
        · exact picks.trans beside reached
        · exact all other (List.mem_cons_of_mem _ later)

/-- The picked element is listed, and all listed ones are under it. -/
theorem Picks.spec {kept : α} (found : items.foldl pick none = some kept) :
    kept ∈ items ∧ ∀ item ∈ items, under item kept := by
  cases items with
  | nil => cases found
  | cons first rest =>
    obtain ⟨best, reached, spec⟩ := picks.foldl_some rest first
    rw [List.foldl_cons, picks.first, reached, Option.some.injEq] at found
    exact found ▸ spec

/-- Only of an empty list nothing is picked. -/
theorem Picks.eq_none : items.foldl pick none = none ↔ items = [] := by
  cases items with
  | nil => simp
  | cons first rest =>
    obtain ⟨best, reached, _⟩ := picks.foldl_some rest first
    simp [picks.first, reached]

end

variable [LinearOrder β]

/-- Keep the best element so far unless the next one is smaller. -/
def keepEarlier (key : α → β) : Option α → α → Option α
  | none, item => some item
  | some best, item => if key item < key best then some item else some best

/-- The element with the smallest key, and the first such element when several tie. -/
def minByKey (key : α → β) (items : List α) : Option α := items.foldl (keepEarlier key) none

variable {key : α → β} {best : Option α}

theorem picks_keepEarlier : Picks (keepEarlier key) fun item kept => key kept ≤ key item where
  refl _ := le_refl _
  trans below under := le_trans under below
  first _ := rfl
  next best item := by
    by_cases smaller : key item < key best
    · exact ⟨item, if_pos smaller, .inr rfl, smaller.le, le_refl _⟩
    · exact ⟨best, if_neg smaller, .inl rfl, le_refl _, not_lt.mp smaller⟩

/-- The picked element is listed, and no listed element has a smaller key. -/
theorem minByKey_spec {result : α} (found : minByKey key items = some result) :
    result ∈ items ∧ ∀ item ∈ items, key result ≤ key item := picks_keepEarlier.spec found

/-- Only an empty list has no smallest element. -/
theorem minByKey_eq_none : minByKey key items = none ↔ items = [] := picks_keepEarlier.eq_none

/-- Keep the best element so far unless the next one is at least as large. -/
def keepLater (key : α → β) : Option α → α → Option α
  | none, item => some item
  | some best, item => if key best ≤ key item then some item else some best

/-- The element with the largest key, and the last such element when several tie. -/
def maxByKey (key : α → β) (items : List α) : Option α := items.foldl (keepLater key) none

theorem picks_keepLater (key : α → β) :
    Picks (keepLater key) fun item kept => key item ≤ key kept where
  refl _ := le_refl _
  trans := le_trans
  first _ := rfl
  next best item := by
    by_cases larger : key best ≤ key item
    · exact ⟨item, if_pos larger, .inr rfl, larger, le_refl _⟩
    · exact ⟨best, if_neg larger, .inl rfl, le_refl _, le_of_not_ge larger⟩

@[simp] theorem maxByKey_nil (key : α → β) : maxByKey key [] = none := rfl

/-- The picked element is listed, and no listed element has a larger key. -/
theorem maxByKey_spec {result : α} (found : maxByKey key items = some result) :
    result ∈ items ∧ ∀ item ∈ items, key item ≤ key result := (picks_keepLater key).spec found

/-- Only an empty list has no largest element. -/
theorem maxByKey_eq_none : maxByKey key items = none ↔ items = [] := (picks_keepLater key).eq_none

/-- Mapping the elements and the best one so far keeps the image of what is kept. -/
theorem foldl_keepLater_map {γ : Type} (key : γ → β) (image : α → γ) (items : List α)
    (best : Option α) :
    (items.map image).foldl (keepLater key) (best.map image) =
      (items.foldl (keepLater (key ∘ image)) best).map image := by
  induction items generalizing best with
  | nil => rfl
  | cons item rest ih =>
    rw [List.map_cons, List.foldl_cons, List.foldl_cons, ← ih]
    congr 1
    cases best with
    | none => rfl
    | some best =>
      simp only [keepLater, Option.map_some, Function.comp]
      split <;> rfl

/-- Mapping the elements first picks the image of the element picked by the composed key. -/
theorem maxByKey_map {γ : Type} (key : γ → β) (image : α → γ) (items : List α) :
    maxByKey key (items.map image) = (maxByKey (key ∘ image) items).map image :=
  foldl_keepLater_map key image items none

/-- What is kept of two elements is one of them. -/
theorem keepLater_mem {later : α} (kept : later ∈ keepLater key best item) :
    later = item ∨ later ∈ best := by
  cases best with
  | none =>
    simp only [keepLater, Option.mem_def, Option.some.injEq] at kept
    exact .inl kept.symm
  | some best =>
    simp only [keepLater] at kept
    split at kept <;> simp only [Option.mem_def, Option.some.injEq] at kept
    · exact .inl kept.symm
    · exact .inr (by simp [kept])

/-- Keys that agree on the elements and on the best one so far keep the same element. -/
theorem foldl_keepLater_congr {other : α → β} (agree : ∀ item ∈ items, key item = other item)
    (kept : ∀ item ∈ best, key item = other item) :
    items.foldl (keepLater key) best = items.foldl (keepLater other) best := by
  induction items generalizing best with
  | nil => rfl
  | cons item rest ih =>
    have here := agree item List.mem_cons_self
    have step : keepLater key best item = keepLater other best item := by
      cases best with
      | none => rfl
      | some best => simp [keepLater, here, kept best rfl]
    have onward : ∀ later ∈ keepLater other best item, key later = other later := by
      intro later mem
      rcases keepLater_mem mem with rfl | before
      · exact here
      · exact kept later before
    rw [List.foldl_cons, List.foldl_cons, step]
    exact ih (fun later mem => agree later (List.mem_cons_of_mem _ mem)) onward

/-- Keys that agree on the listed elements pick the same element. -/
theorem maxByKey_congr {other : α → β} (agree : ∀ item ∈ items, key item = other item) :
    maxByKey key items = maxByKey other items :=
  foldl_keepLater_congr agree fun _ nothing => by cases nothing

/-- Of several largest elements the last one is picked. -/
theorem maxByKey_concat {last : α} (above : ∀ item ∈ items, key item ≤ key last) :
    maxByKey key (items ++ [last]) = some last := by
  rw [maxByKey, List.foldl_concat]
  change keepLater key (maxByKey key items) last = some last
  cases found : maxByKey key items with
  | none => rfl
  | some best => exact if_pos (above best (maxByKey_spec found).1)

end Rust
