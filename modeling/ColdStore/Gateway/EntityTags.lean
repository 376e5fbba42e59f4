import ColdStore.Gateway.Preconditions

/-! Lists of entity tags as clients write them, and what the gateway reads of each tag. -/

namespace ColdStore

open Rust

/-- An entity tag, which holds neither commas nor quotes nor white space. -/
structure EntityTag where
  text : String
  plain : ∀ c ∈ text.toList, c ≠ ',' ∧ c ≠ '"' ∧ isWhitespace c = false

/-- The ways to write a tag in a list. -/
inductive TagForm where
  | bare
  | quoted
  | weak
  deriving DecidableEq

/-- The characters of a tag written in a form. -/
def TagForm.write : TagForm → List Char → List Char
  | .bare, text => text
  | .quoted, text => '"' :: text ++ ['"']
  | .weak, text => 'W' :: '/' :: '"' :: text ++ ['"']

/-- A tag in a list, with the white space around it. -/
structure ListedTag where
  tag : EntityTag
  form : TagForm
  before : String := ""
  after : String := ""
  spaced : ∀ c ∈ before.toList ++ after.toList, isWhitespace c = true

/-- A tag as it stands in a list. -/
def ListedTag.rendered (listed : ListedTag) : String :=
  String.ofList
    (listed.before.toList ++ listed.form.write listed.tag.text.toList ++ listed.after.toList)

/-- The value of a header that lists the tags. -/
def tagList (tags : List ListedTag) : String :=
  (String.singleton ',').intercalate (tags.map ListedTag.rendered)

/-- What is left of a tag without the white space around it and the quotes at its ends. -/
def TagForm.token : TagForm → List Char → List Char
  | .bare, text | .quoted, text => text
  -- The opening quote of a weak tag is not at an end, unless nothing stands behind it.
  | .weak, text => if text = [] then ['W', '/'] else 'W' :: '/' :: '"' :: text

/-- Only quotes are added to a tag that is written strongly, and the mark to a weak one. -/
theorem TagForm.mem_write {form : TagForm} {text : List Char} {c : Char}
    (mem : c ∈ form.write text) : c ∈ text ∨ c = '"' ∨ c = 'W' ∨ c = '/' := by
  cases form with
  | bare => exact .inl mem
  | quoted | weak =>
    simp only [write, List.cons_append, List.mem_cons, List.mem_append, List.not_mem_nil,
      or_false] at mem
    tauto

/-- A written tag has no white space of its own. -/
theorem TagForm.write_unspaced (form : TagForm) (tag : EntityTag) :
    ∀ c ∈ form.write tag.text.toList, isWhitespace c = false := by
  intro c mem
  obtain within | rfl | rfl | rfl := form.mem_write mem
  · exact (tag.plain c within).2.2
  all_goals decide

/-- The commas of a list stand between its tags only. -/
theorem ListedTag.rendered_commaless (listed : ListedTag) : ',' ∉ listed.rendered.toList := by
  rw [rendered, String.toList_ofList, List.append_assoc, List.mem_append, List.mem_append]
  intro mem
  -- A comma is not white space, so none is in the padding.
  have padding : ∀ c ∈ listed.before.toList ++ listed.after.toList, c ≠ ',' := by
    intro c within same
    have space := listed.spaced c within
    rw [same] at space
    exact absurd space (by decide)
  rcases mem with front | middle | back
  · exact padding _ (List.mem_append_left _ front) rfl
  · obtain within | quote | mark | slash := TagForm.mem_write middle
    · exact (listed.tag.plain _ within).1 rfl
    all_goals contradiction
  · exact padding _ (List.mem_append_right _ back) rfl

/-- Trimming white space leaves the written tag. -/
theorem ListedTag.trim_rendered (listed : ListedTag) :
    trim listed.rendered = String.ofList (listed.form.write listed.tag.text.toList) := by
  rw [trim_eq_trimChars, rendered, String.toList_ofList]
  rw [trimChars_between (fun c mem => listed.spaced c (List.mem_append_left _ mem))
    (fun c mem => listed.spaced c (List.mem_append_right _ mem))
    (listed.form.write_unspaced listed.tag)]

/-- Trimming quotes leaves the token of a written tag. -/
theorem TagForm.trimChars_write (form : TagForm) (tag : EntityTag) :
    trimChars (fun c => c == '"') (form.write tag.text.toList) = form.token tag.text.toList := by
  have clean : ∀ c ∈ tag.text.toList, (c == '"') = false := by
    intro c mem
    simpa using (tag.plain c mem).2.1
  cases form with
  | bare =>
    have trimmed : trimChars (fun c => c == '"') ([] ++ tag.text.toList ++ []) = _ :=
      trimChars_between (by simp) (by simp) clean
    simpa [write, token] using trimmed
  | quoted =>
    have trimmed : trimChars (fun c => c == '"') (['"'] ++ tag.text.toList ++ ['"']) = _ :=
      trimChars_between (by simp) (by simp) clean
    simpa [write, token] using trimmed
  | weak =>
    by_cases empty : tag.text.toList = []
    · rw [empty]
      rfl
    · -- The token ends with the tag itself, so only the closing quote goes.
      have closes : ∀ c ∈ ('W' :: '/' :: '"' :: tag.text.toList).getLast?, (c == '"') = false := by
        intro c mem
        rw [List.getLast?_cons_of_ne_nil (by simp), List.getLast?_cons_of_ne_nil (by simp),
          List.getLast?_cons_of_ne_nil empty] at mem
        exact clean c (List.mem_of_getLast? mem)
      have trimmed : trimChars (fun c => c == '"')
          ([] ++ ('W' :: '/' :: '"' :: tag.text.toList) ++ ['"']) = _ :=
        trimChars_around (by simp) (by simp) (by simp) closes
      simpa [write, token, empty] using trimmed

/-- What the gateway compares with the tag of the object. -/
theorem ListedTag.read (listed : ListedTag) :
    trimMatches (trim listed.rendered) '"'
      = String.ofList (listed.form.token listed.tag.text.toList) := by
  rw [listed.trim_rendered, trimMatches, String.toList_ofList, listed.form.trimChars_write]

/-- A list is cut into the tags it was written from. -/
theorem split_tagList {tags : List ListedTag} (nonempty : tags ≠ []) :
    split (tagList tags) ',' = tags.map ListedTag.rendered := by
  apply split_intercalate
  · simpa using nonempty
  · intro part mem
    obtain ⟨listed, _, rfl⟩ := List.mem_map.mp mem
    exact listed.rendered_commaless

end ColdStore
