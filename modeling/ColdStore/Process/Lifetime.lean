import Mathlib.Data.List.Chain
import Mathlib.Logic.Relation

/-! What a record goes through over time, when every step keeps it or moves it on. -/

namespace Process

variable {τ : Type}

/-- A record that is there stays as it is or is followed by another one. -/
def Continues (follows : τ → τ → Prop) (before after : Option τ) : Prop :=
  ∀ current, before = some current →
    ∃ next, after = some next ∧ (next = current ∨ follows current next)

/-- A record that is there has a record later, at the end of a path. -/
def Descends (follows : τ → τ → Prop) (before after : Option τ) : Prop :=
  ∀ current, before = some current →
    ∃ next, after = some next ∧ Relation.ReflTransGen follows current next

variable {follows : τ → τ → Prop}

theorem Continues.descends {before after : Option τ} (continues : Continues follows before after) :
    Descends follows before after := by
  intro current present
  obtain ⟨next, there, same | moved⟩ := continues current present
  · exact ⟨next, there, same ▸ .refl⟩
  · exact ⟨next, there, .single moved⟩

instance : Trans (Descends follows) (Descends follows) (Descends follows) where
  trans := by
    intro first second third left right current present
    obtain ⟨next, there, walked⟩ := left current present
    obtain ⟨last, later, further⟩ := right next there
    exact ⟨last, later, walked.trans further⟩

/-- Step by step, hence between any two moments. -/
theorem descends_of_isChain {records : List (Option τ)}
    (past : records.IsChain (Continues follows)) : records.Pairwise (Descends follows) :=
  (past.imp fun _ _ continues => continues.descends).pairwise

/-- Once there, the records that are there form a path. -/
theorem path_of_isChain {records : List (Option τ)} (past : records.IsChain (Continues follows)) :
    (records.filterMap id).IsChain fun current next => next = current ∨ follows current next := by
  induction records with
  | nil => exact .nil
  | cons record records ih =>
    have rest := ih past.tail
    cases record with
    | none => exact rest
    | some current =>
      -- The record is still there at the next moment, if there is one.
      cases records with
      | nil => exact .singleton current
      | cons later records =>
        obtain ⟨next, rfl, step⟩ := past.rel current rfl
        exact .cons_cons step rest

/-- What every step keeps is kept along a whole walk. -/
theorem kept_along {σ : Type} {step : σ → σ → Prop} (holds : σ → Prop)
    (keeps : ∀ {before after}, step before after → holds before → holds after) {first last : σ}
    (walked : Relation.ReflTransGen step first last) (start : holds first) : holds last := by
  induction walked with
  | refl => exact start
  | tail _ moved ih => exact keeps moved ih

/-- A record that nothing follows is the only one it leads to. -/
theorem eq_of_descends {current next : τ} (final : ∀ other, ¬ follows current other)
    (walked : Relation.ReflTransGen follows current next) : next = current := by
  cases walked.cases_head with
  | inl same => exact same.symm
  | inr moved =>
    obtain ⟨other, step, _⟩ := moved
    exact absurd step (final other)

end Process
