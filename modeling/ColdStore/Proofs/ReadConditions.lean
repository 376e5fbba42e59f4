import ColdStore.Gateway.EntityTags
import ColdStore.Gateway.Precedence

/-! Conditional requests: which tags of a list count, and which conditions take precedence. -/

namespace ColdStore

open Rust

/-- The three comparisons that a token is put to. -/
private def Names (token etag : String) : Prop :=
  token = "*" ∨ token = etag ∨ token = "W/\"" ++ etag ++ "\""

private theorem EntityTag.unquoted (tag : EntityTag) : '"' ∉ tag.text.toList :=
  fun member => (tag.plain _ member).2.1 rfl

/-- A strongly written tag counts when it is the tag of the object or the wildcard. -/
private theorem strong_token_names {form : TagForm} (strong : form ≠ .weak) (tag etag : EntityTag) :
    Names (String.ofList (form.token tag.text.toList)) etag.text ↔
      tag.text = etag.text ∨ tag.text = "*" := by
  have token : String.ofList (form.token tag.text.toList) = tag.text := by
    cases form with
    | bare => simp [TagForm.token]
    | quoted => simp [TagForm.token]
    | weak => exact absurd rfl strong
  -- The tag itself has no quote, so it is not the weak form of anything.
  have notWeak : tag.text ≠ "W/\"" ++ etag.text ++ "\"" := by
    intro same
    exact tag.unquoted (by simp [same])
  rw [token, Names]
  tauto

/-- A weakly written tag keeps its mark and its opening quote, which no tag has. -/
private theorem weak_token_names (tag etag : EntityTag) :
    Names (String.ofList (TagForm.weak.token tag.text.toList)) etag.text ↔
      tag.text = "" ∧ etag.text = "W/" := by
  by_cases empty : tag.text = ""
  · -- Both quotes of the empty tag are at its end, and only the mark is left.
    have token : String.ofList (TagForm.weak.token tag.text.toList) = "W/" := by
      rw [empty]
      rfl
    have unquoted : "W/" ≠ "W/\"" ++ etag.text ++ "\"" := by
      intro same
      have quote : '"' ∈ "W/".toList := by simp [same]
      exact absurd quote (by decide)
    have notAny : "W/" ≠ "*" := by decide
    rw [token, Names]
    constructor
    · rintro (any | same | weak)
      · exact absurd any notAny
      · exact ⟨empty, same.symm⟩
      · exact absurd weak unquoted
    · rintro ⟨-, same⟩
      exact .inr (.inl same.symm)
  · have token : (String.ofList (TagForm.weak.token tag.text.toList)).toList
        = 'W' :: '/' :: '"' :: tag.text.toList := by
      have filled : tag.text.toList ≠ [] := fun none => empty (String.toList_eq_nil_iff.mp none)
      simp [TagForm.token, filled]
    constructor
    · rintro (any | same | weak)
      · rw [any] at token
        cases token
      · rw [same] at token
        exact absurd (by simp [token]) etag.unquoted
      -- The closing quote that was trimmed would have to come from the tag.
      · rw [weak] at token
        have rest : etag.text.toList ++ ['"'] = tag.text.toList := by simpa using token
        exact absurd (by simp [← rest]) tag.unquoted
    · rintro ⟨none, -⟩
      exact absurd none empty

/-- A header names a tag when the token of one of its elements does. -/
private theorem etagHeaderMatches_tagList {tags : List ListedTag} (nonempty : tags ≠ [])
    (etag : String) :
    etagHeaderMatches (tagList tags) etag = true ↔
      ∃ listed ∈ tags, Names (String.ofList (listed.form.token listed.tag.text.toList)) etag := by
  simp only [etagHeaderMatches, split_tagList nonempty, List.any_eq_true, List.mem_map,
    Bool.or_eq_true, beq_iff_eq, Names]
  -- Every token of the header is that of a listed tag, and every listed tag has one.
  constructor
  · rintro ⟨_, ⟨_, ⟨_, ⟨listed, member, rfl⟩, rfl⟩, rfl⟩, named⟩
    rw [listed.read] at named
    exact ⟨listed, member, by tauto⟩
  · rintro ⟨listed, member, named⟩
    refine ⟨_, ⟨_, ⟨_, ⟨listed, member, rfl⟩, rfl⟩, rfl⟩, ?_⟩
    rw [listed.read]
    tauto

/-- A listed tag is the tag of the object or the wildcard, however it is written. -/
def ListedTag.Equals (listed : ListedTag) (etag : EntityTag) : Prop :=
  listed.tag.text = etag.text ∨ listed.tag.text = "*"

/-- An empty tag that is written weakly counts for the one etag that is left of its text. -/
def ListedTag.Leaves (listed : ListedTag) (etag : EntityTag) : Prop :=
  listed.form = .weak ∧ listed.tag.text = "" ∧ etag.text = "W/"

/--
The tags that count are those written without the weak mark.

So the header is read as the list it stands for exactly if a tag without the mark decides it, or the
tags with the mark happen to count when they should.
-/
theorem etagHeaderMatches_tagList_iff {tags : List ListedTag} (nonempty : tags ≠ [])
    (etag : EntityTag) :
    (etagHeaderMatches (tagList tags) etag.text = true ↔
      ∃ listed ∈ tags, (listed.form ≠ .weak ∧ listed.Equals etag) ∨ listed.Leaves etag) ∧
    ((etagHeaderMatches (tagList tags) etag.text = true ↔ ∃ listed ∈ tags, listed.Equals etag) ↔
      (∃ listed ∈ tags, listed.form ≠ .weak ∧ listed.Equals etag) ∨
        ((∃ listed ∈ tags, listed.form = .weak ∧ listed.Equals etag) ↔
          ∃ listed ∈ tags, listed.Leaves etag)) := by
  -- Tag by tag, the form decides which of the comparisons can hold.
  have counts : etagHeaderMatches (tagList tags) etag.text = true ↔
      ∃ listed ∈ tags, (listed.form ≠ .weak ∧ listed.Equals etag) ∨ listed.Leaves etag := by
    rw [etagHeaderMatches_tagList nonempty]
    refine exists_congr fun listed => and_congr_right fun _ => ?_
    unfold ListedTag.Equals ListedTag.Leaves
    by_cases weak : listed.form = .weak
    · rw [weak, weak_token_names]
      simp
    · rw [strong_token_names weak]
      simp [weak]
  -- A list holds a tag of the object if a tag of either form is one.
  have either : (∃ listed ∈ tags, listed.Equals etag) ↔
      (∃ listed ∈ tags, listed.form ≠ .weak ∧ listed.Equals etag) ∨
        ∃ listed ∈ tags, listed.form = .weak ∧ listed.Equals etag := by
    rw [← exists_or]
    exact exists_congr fun listed => by tauto
  refine ⟨counts, ?_⟩
  rw [counts, either]
  simp only [and_or_left, exists_or]
  by_cases strong : ∃ listed ∈ tags, listed.form ≠ .weak ∧ listed.Equals etag
  · exact iff_of_true (iff_of_true (.inl strong) (.inl strong)) (.inl strong)
  · rw [or_iff_right strong, or_iff_right strong, or_iff_right strong]
    exact iff_comm

/-- A list of two tags, of which the quoted one is the tag of the object. -/
theorem etagHeaderMatches_two_tags :
    ∃ (etag : EntityTag) (tags : List ListedTag), tagList tags = "v1 , \"v2\"" ∧
      etag.text = "v2" ∧ tags ≠ [] ∧ etagHeaderMatches (tagList tags) etag.text = true := by
  let first : EntityTag := ⟨"v1", by simp [isWhitespace]⟩
  let second : EntityTag := ⟨"v2", by simp [isWhitespace]⟩
  let tags : List ListedTag :=
    [⟨first, .bare, "", " ", by simp [isWhitespace]⟩,
      ⟨second, .quoted, " ", "", by simp [isWhitespace]⟩]
  have filled : tags ≠ [] := List.cons_ne_nil _ _
  refine ⟨second, tags, by decide, rfl, filled, ?_⟩
  exact (etagHeaderMatches_tagList_iff filled second).1.mpr
    ⟨_, List.mem_cons_of_mem _ List.mem_cons_self, .inl ⟨by decide, .inl rfl⟩⟩

/-- The weak form of the tag of the object does not match it. -/
theorem weak_tag_unrecognised :
    ∃ (etag : EntityTag) (tags : List ListedTag), tagList tags = "W/\"v1\"" ∧
      etag.text = "v1" ∧ (∃ listed ∈ tags, listed.tag.text = etag.text) ∧
      etagHeaderMatches (tagList tags) etag.text = false := by
  let etag : EntityTag := ⟨"v1", by simp [isWhitespace]⟩
  let listed : ListedTag := ⟨etag, .weak, "", "", by simp⟩
  exact ⟨etag, [listed], by decide, rfl, ⟨listed, List.mem_cons_self, rfl⟩, by decide⟩

/-- The gateway keeps to the precedence unless a date fails beside a list of tags that holds. -/
theorem conditional_read_precedence_iff {date : String → Option Int} {headers : ReadHeaders}
    {resource : String} {head : HeadObjectResponse} {modified : Timestamp}
    {modifiedSince unmodifiedSince : Option Int}
    (modifiedReads : readDate date headers.ifModifiedSince "invalid If-Modified-Since header"
      = .ok modifiedSince)
    (unmodifiedReads : readDate date headers.ifUnmodifiedSince "invalid If-Unmodified-Since header"
      = .ok unmodifiedSince) (dated : head.lastModified = some modified) :
    ∃ answer, checkReadPreconditions date headers resource (.ok head) = .ok answer ∧
      (decided answer = some
          (headers.conditions unmodifiedSince modifiedSince head.etag modified.seconds).precedence ↔
        ¬ ((∃ value, headers.ifMatch = some value ∧ etagHeaderMatches value head.etag = true) ∧
          ∃ since, unmodifiedSince = some since ∧ since < modified.seconds) ∧
        ¬ ((∃ value, headers.ifNoneMatch = some value ∧
            etagHeaderMatches value head.etag = false) ∧
          (∃ since, modifiedSince = some since ∧ modified.seconds ≤ since) ∧
          (∀ value, headers.ifMatch = some value → etagHeaderMatches value head.etag = true) ∧
          ∀ since, unmodifiedSince = some since → modified.seconds ≤ since)) := by
  obtain ⟨answer, checked, decision⟩ :=
    @checkReadPreconditions_decided _ _ resource _ _ _ _ modifiedReads unmodifiedReads dated
  refine ⟨answer, checked, ?_⟩
  rw [decision, Option.some_inj, Conditions.every_eq_precedence_iff]
  -- Each condition holds or fails by what its header says of the object.
  apply and_congr
  · simp [ReadHeaders.conditions]
  · simp [ReadHeaders.conditions]

/-- A request with both lists, for the version that is stored and was changed after the date. -/
theorem conditional_read_current :
    ∃ answer,
      checkReadPreconditions (fun _ => some 100) ⟨some "v2", some "v1", some "d", none⟩ "/b/k"
        (.ok ⟨"v2", some ⟨200, 0⟩⟩) = .ok answer ∧ decided answer = some .perform := by
  obtain ⟨answer, checked, decision⟩ :=
    @conditional_read_precedence_iff (fun _ => some 100) ⟨some "v2", some "v1", some "d", none⟩
      "/b/k" ⟨"v2", some ⟨200, 0⟩⟩ ⟨200, 0⟩ (some 100) none (by decide) (by decide) rfl
  refine ⟨answer, checked, ?_⟩
  refine (decision.mpr ⟨?_, ?_⟩).trans (by decide)
  · simp
  · simp

/-- A client that lists another version is told that nothing changed, because of its date. -/
theorem other_version_not_modified :
    ∃ answer,
      checkReadPreconditions (fun _ => some 100) ⟨none, some "\"v1\"", some "d", none⟩ "/b/k"
        (.ok ⟨"v2", some ⟨100, 0⟩⟩) = .ok answer ∧ decided answer = some .notModified ∧
      etagHeaderMatches "\"v1\"" "v2" = false ∧
      (ReadHeaders.conditions ⟨none, some "\"v1\"", some "d", none⟩ none (some 100) "v2"
        100).precedence = .perform :=
  ⟨some (notModifiedResponse "/b/k" "v2"), by rfl, by decide, by decide, by decide⟩

end ColdStore
