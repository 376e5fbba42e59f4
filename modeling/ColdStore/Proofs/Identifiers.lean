import ColdStore.Scheduler.Rules

/-! Which objects share the names of their bundles, tasks and locks. -/

namespace ColdStore.Scheduler

open Rust

/-! A text, and another one behind a mark unless it is empty. -/

/-- The characters of a text behind a mark, and none for an empty text. -/
def behindMark (mark : Char) (text : List Char) : List Char := if text = [] then [] else mark :: text

section

variable {mark : Char} {first second tail tail' : List Char}

@[simp] theorem behindMark_nil : behindMark mark [] = [] := rfl

theorem behindMark_of_ne_nil (present : tail ≠ []) : behindMark mark tail = mark :: tail :=
  if_neg present

theorem behindMark_inj : behindMark mark tail = behindMark mark tail' ↔ tail = tail' := by
  cases tail <;> cases tail' <;> simp [behindMark]

/-- The mark of a longer text is read as the mark of a shorter one. -/
theorem append_more_behindMark {more : List Char} (present : more ≠ []) :
    behindMark mark tail = more ++ behindMark mark tail' ↔
      ∃ rest, more = mark :: rest ∧ tail = rest ++ behindMark mark tail' ∧ tail ≠ [] := by
  cases more with
  | nil => exact absurd rfl present
  | cons c rest =>
    -- Without a text behind the mark there is no mark for the longer beginning to take.
    by_cases empty : tail = []
    · simp [empty]
    · rw [behindMark_of_ne_nil empty, List.cons_append, List.cons.injEq]
      constructor
      · intro ⟨opens, same⟩
        exact ⟨rest, by rw [opens], same, empty⟩
      · intro ⟨rest', split, same, _⟩
        cases split
        exact ⟨rfl, same⟩

/-- Two texts with marks are the same if their parts are, or if one has the mark inside. -/
theorem append_behindMark_inj :
    first ++ behindMark mark tail = second ++ behindMark mark tail' ↔
      (first = second ∧ tail = tail') ∨
      (∃ rest, second = first ++ mark :: rest ∧ tail = rest ++ behindMark mark tail' ∧ tail ≠ []) ∨
      (∃ rest, first = second ++ mark :: rest ∧ tail' = rest ++ behindMark mark tail ∧
        tail' ≠ []) := by
  rw [List.append_eq_append_iff]
  constructor
  · -- One beginning is a beginning of the other, and what it lacks begins with the mark.
    intro split
    rcases split with ⟨more, longer, rest⟩ | ⟨more, longer, rest⟩
    · by_cases none : more = []
      · subst none
        exact .inl ⟨by rw [longer, List.append_nil], behindMark_inj.mp rest⟩
      · obtain ⟨inner, rfl, split, present⟩ := (append_more_behindMark none).mp rest
        exact .inr (.inl ⟨inner, longer, split, present⟩)
    · by_cases none : more = []
      · subst none
        exact .inl ⟨by rw [longer, List.append_nil], (behindMark_inj.mp rest).symm⟩
      · obtain ⟨inner, rfl, split, present⟩ := (append_more_behindMark none).mp rest
        exact .inr (.inr ⟨inner, longer, split, present⟩)
  · intro cases_
    rcases cases_ with ⟨rfl, rfl⟩ | ⟨rest, longer, split, present⟩ | ⟨rest, longer, split, present⟩
    · exact .inl ⟨[], (List.append_nil first).symm, rfl⟩
    · refine .inl ⟨mark :: rest, longer, ?_⟩
      exact (append_more_behindMark (List.cons_ne_nil _ _)).mpr ⟨rest, rfl, split, present⟩
    · refine .inr ⟨mark :: rest, longer, ?_⟩
      exact (append_more_behindMark (List.cons_ne_nil _ _)).mpr ⟨rest, rfl, split, present⟩

end

/-! Names made of bucket, key and version. -/

/-- The version of an object as text, where a missing and an empty one are the same. -/
def versionText (obj : ObjectKey) : List Char := (obj.versionId.getD "").toList

/-- The same bucket, key and version. -/
def SameObject (left right : ObjectKey) : Prop :=
  left.bucket = right.bucket ∧ left.key = right.key ∧ versionText left = versionText right

/-- The key of the second object goes on with the mark and a part of the version of the first. -/
def KeyTakesVersion (left right : ObjectKey) : Prop :=
  ∃ rest, right.key.toList = left.key.toList ++ '#' :: rest ∧
    versionText left = rest ++ behindMark '#' (versionText right) ∧ versionText left ≠ []

/-- Two objects of one bucket, where the key of one takes the place of the version of the other. -/
def Collide (left right : ObjectKey) : Prop :=
  left.bucket = right.bucket ∧ (KeyTakesVersion left right ∨ KeyTakesVersion right left)

theorem toList_phase1Name (front : String) (obj : ObjectKey) :
    (phase1Name front obj.bucket obj.key obj.versionId).toList =
      front.toList ++ (obj.bucket.toList ++ '/' ::
        (obj.key.toList ++ behindMark '#' (versionText obj))) := by
  obtain ⟨bucket, key, versionId⟩ := obj
  have slash : "/".toList = ['/'] := rfl
  have hash : "#".toList = ['#'] := rfl
  cases versionId with
  | none => simp [phase1Name, versionText, slash]
  | some version =>
    -- An empty version is named like none at all.
    by_cases empty : version = ""
    · simp [phase1Name, versionText, Option.filter, empty, slash]
    · have present : version.toList ≠ [] := by simpa using empty
      simp [phase1Name, versionText, Option.filter, empty, behindMark_of_ne_nil, slash, hash]

/-- Names of objects in buckets without a slash are equal for one object, or for two that collide. -/
theorem phase1Name_eq_iff (front : String) {left right : ObjectKey}
    (plain : '/' ∉ left.bucket.toList) (plain' : '/' ∉ right.bucket.toList) :
    phase1Name front left.bucket left.key left.versionId =
        phase1Name front right.bucket right.key right.versionId ↔
      SameObject left right ∨ Collide left right := by
  have behind : left.key.toList ++ behindMark '#' (versionText left) =
      right.key.toList ++ behindMark '#' (versionText right) ↔
        (left.key = right.key ∧ versionText left = versionText right) ∨
          KeyTakesVersion left right ∨ KeyTakesVersion right left := by
    rw [append_behindMark_inj, String.toList_inj]
    rfl
  rw [← String.toList_inj, toList_phase1Name, toList_phase1Name, List.append_cancel_left_eq,
    SameObject, Collide, ← and_or_left, ← behind]
  constructor
  · intro same
    -- The first slash ends the bucket.
    obtain ⟨buckets, rest⟩ := append_separator_inj plain plain' same
    exact ⟨String.toList_inj.mp buckets, rest⟩
  · intro ⟨buckets, rest⟩
    rw [buckets, rest]

/-- Keys without the mark do not take versions. -/
theorem not_collide {left right : ObjectKey} (plain : '#' ∉ left.key.toList)
    (plain' : '#' ∉ right.key.toList) : ¬ Collide left right := by
  intro ⟨_, taken⟩
  rcases taken with ⟨rest, longer, _⟩ | ⟨rest, longer, _⟩
  · exact plain' (by simp [longer])
  · exact plain (by simp [longer])

/--
The names of bundles, recall tasks and archive locks of two objects are equal if the objects are the
same, or if the key of one goes on with the mark that separates the version of the other.

Objects whose keys are without that mark share no names.
-/
theorem identifiers_equal_iff {left right : ObjectKey} (plain : '/' ∉ left.bucket.toList)
    (plain' : '/' ∉ right.bucket.toList) :
    (phase1BundleId left.bucket left.key left.versionId =
        phase1BundleId right.bucket right.key right.versionId ↔
      SameObject left right ∨ Collide left right) ∧
    (phase1RecallTaskId left.bucket left.key left.versionId =
        phase1RecallTaskId right.bucket right.key right.versionId ↔
      SameObject left right ∨ Collide left right) ∧
    (phase1ArchiveItemKey left.bucket left.key left.versionId =
        phase1ArchiveItemKey right.bucket right.key right.versionId ↔
      SameObject left right ∨ Collide left right) ∧
    ('#' ∉ left.key.toList → '#' ∉ right.key.toList → ¬ Collide left right) :=
  ⟨phase1Name_eq_iff _ plain plain', phase1Name_eq_iff _ plain plain',
    phase1Name_eq_iff _ plain plain', not_collide⟩

/-- Two keys of one bucket have different bundles. -/
theorem identifiers_equal_iff_twoKeys :
    phase1BundleId "docs" "a" none ≠ phase1BundleId "docs" "b" none := by
  have plain := @identifiers_equal_iff ⟨"docs", "a", none⟩ ⟨"docs", "b", none⟩ (by decide) (by decide)
  intro same
  rcases plain.1.mp same with ⟨_, keys, _⟩ | collide
  · exact absurd keys (by decide)
  · exact plain.2.2.2 (by decide) (by decide) collide

/-- A version of a key has the names of a key with the version in it. -/
theorem version_and_key_share_names :
    ¬ SameObject ⟨"docs", "a", some "v"⟩ ⟨"docs", "a#v", none⟩ ∧
      phase1BundleId "docs" "a" (some "v") = phase1BundleId "docs" "a#v" none ∧
      phase1RecallTaskId "docs" "a" (some "v") = phase1RecallTaskId "docs" "a#v" none ∧
      phase1ArchiveItemKey "docs" "a" (some "v") = phase1ArchiveItemKey "docs" "a#v" none := by
  refine ⟨fun same => ?_, by decide⟩
  exact absurd same.2.1 (by decide)

end ColdStore.Scheduler
