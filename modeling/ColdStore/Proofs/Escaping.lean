import ColdStore.Gateway.Http

/-! Texts in XML: what escaping writes, and that a reader of entities gets every text back. -/

namespace ColdStore

open Rust

/-- The characters that are escaped, in the order they are replaced, each with its entity. -/
def entityTable : List (Char × String) :=
  [('&', "&amp;"), ('<', "&lt;"), ('>', "&gt;"), ('"', "&quot;"), ('\'', "&apos;")]

/-- What escaping writes for one character. -/
def entity (c : Char) : List Char := substitute entityTable c

/-- Put characters back in place of the entities, from left to right. -/
def unescapeChars : List Char → List Char
  | '&' :: 'a' :: 'm' :: 'p' :: ';' :: rest => '&' :: unescapeChars rest
  | '&' :: 'l' :: 't' :: ';' :: rest => '<' :: unescapeChars rest
  | '&' :: 'g' :: 't' :: ';' :: rest => '>' :: unescapeChars rest
  | '&' :: 'q' :: 'u' :: 'o' :: 't' :: ';' :: rest => '"' :: unescapeChars rest
  | '&' :: 'a' :: 'p' :: 'o' :: 's' :: ';' :: rest => '\'' :: unescapeChars rest
  | c :: rest => c :: unescapeChars rest
  | [] => []

def unescapeXml (text : String) : String := String.ofList (unescapeChars text.toList)

theorem mem_entityTable {entry : Char × String} (mem : entry ∈ entityTable) :
    entry = ('&', "&amp;") ∨ entry = ('<', "&lt;") ∨ entry = ('>', "&gt;") ∨
      entry = ('"', "&quot;") ∨ entry = ('\'', "&apos;") := by
  simpa [entityTable] using mem

/-- A character is one of those that are escaped, or it is written as it is. -/
theorem entity_cases (c : Char) :
    (∃ entry ∈ entityTable, c = entry.1 ∧ entity c = entry.2.toList) ∨
      (∀ entry ∈ entityTable, c ≠ entry.1) ∧ entity c = [c] := by
  by_cases escaped : ∀ entry ∈ entityTable, c ≠ entry.1
  · refine Or.inr ⟨escaped, ?_⟩
    have missing : entityTable.lookup c = none := by
      rw [List.lookup_eq_none_iff]
      intro entry mem
      simpa using escaped entry mem
    rw [entity, substitute, missing]
  · push Not at escaped
    obtain ⟨entry, mem, same⟩ := escaped
    refine Or.inl ⟨entry, mem, same, ?_⟩
    -- No character is in the table twice.
    rcases mem_entityTable mem with rfl | rfl | rfl | rfl | rfl <;> subst same <;> rfl

/-- The five replacements one after the other write an entity or the character itself. -/
theorem escapeXml_toList (text : String) :
    (escapeXml text).toList = text.toList.flatMap entity := by
  -- Only the ampersand occurs in the entities, and it is replaced before the others.
  have apart : entityTable.Pairwise fun earlier later => later.1 ∉ earlier.2.toList := by
    simp [entityTable]
  have table : escapeXml text = replaceAll entityTable text := rfl
  rw [table, replaceAll_eq apart, String.toList_ofList]
  rfl

/-- A character that is replaced by an entity without it does not occur in any text. -/
theorem not_mem_entity {c : Char} (marked : c ∈ ['<', '>', '"', '\'']) (d : Char) :
    c ∉ entity d := by
  rcases entity_cases d with ⟨entry, mem, same, written⟩ | ⟨plain, written⟩
  · rw [written]
    simp only [List.mem_cons, List.not_mem_nil, or_false] at marked
    rcases mem_entityTable mem with rfl | rfl | rfl | rfl | rfl <;>
      rcases marked with rfl | rfl | rfl | rfl <;> simp
  · rw [written, List.mem_singleton]
    intro same
    subst same
    have listed : ∃ entry ∈ entityTable, entry.1 = c := by
      simp only [List.mem_cons, List.not_mem_nil, or_false] at marked
      rcases marked with rfl | rfl | rfl | rfl <;> simp [entityTable]
    obtain ⟨entry, mem, same⟩ := listed
    exact plain entry mem same.symm

/-- An ampersand is the first character of an entity, which is all that is written. -/
theorem ampersand_entity {d : Char} {front back : List Char} (split : entity d = front ++ '&' :: back) :
    front = [] ∧ ∃ entry ∈ entityTable, '&' :: back = entry.2.toList := by
  have tailless : '&' ∉ (entity d).tail := by
    rcases entity_cases d with ⟨entry, mem, same, written⟩ | ⟨plain, written⟩
    · rw [written]
      rcases mem_entityTable mem with rfl | rfl | rfl | rfl | rfl <;> simp
    · simp [written]
  have opening : front = [] := by
    cases front with
    | nil => rfl
    | cons c rest =>
      rw [split] at tailless
      simp at tailless
  refine ⟨opening, ?_⟩
  subst opening
  rw [List.nil_append] at split
  rcases entity_cases d with ⟨entry, mem, same, written⟩ | ⟨plain, written⟩
  · exact ⟨entry, mem, split.symm.trans written⟩
  · rw [written, List.cons.injEq] at split
    exact absurd split.1 (plain ('&', "&amp;") (by simp [entityTable]))

/-- Every ampersand among the written characters begins an entity. -/
theorem ampersand_begins_entity {chars front back : List Char}
    (split : chars.flatMap entity = front ++ '&' :: back) :
    ∃ entry ∈ entityTable, entry.2.toList <+: '&' :: back := by
  -- By induction on the characters, until the ampersand is in what one of them is written as.
  induction chars generalizing front with
  | nil => simp at split
  | cons c rest ih =>
    rw [List.flatMap_cons, List.append_eq_append_iff] at split
    rcases split with ⟨more, rfl, later⟩ | ⟨more, here, later⟩
    · exact ih later
    · cases more with
      | nil => exact @ih [] later.symm
      | cons first more =>
        rw [List.cons_append, List.cons.injEq] at later
        obtain ⟨rfl, rfl⟩ := later
        obtain ⟨_, entry, mem, whole⟩ := ampersand_entity here
        refine ⟨entry, mem, rest.flatMap entity, ?_⟩
        rw [← whole, List.cons_append]

/-- What is written for one character is read back as this character. -/
theorem unescapeChars_entity (c : Char) (rest : List Char) :
    unescapeChars (entity c ++ rest) = c :: unescapeChars rest := by
  rcases entity_cases c with ⟨entry, mem, same, written⟩ | ⟨plain, written⟩
  · rw [written, same]
    rcases mem_entityTable mem with rfl | rfl | rfl | rfl | rfl <;> rfl
  · rw [written]
    have other := plain ('&', "&amp;") (by simp [entityTable])
    rw [List.singleton_append, unescapeChars] <;> simp [other]

theorem unescapeChars_flatMap (chars : List Char) : unescapeChars (chars.flatMap entity) = chars := by
  induction chars with
  | nil => rfl
  | cons c rest ih => rw [List.flatMap_cons, unescapeChars_entity, ih]

/--
Escaping writes each character by itself, some of them as entities. Nothing in the result can be
taken for markup, and reading the entities from left to right gives the text back.
-/
theorem escapeXml_reads_back (text : String) :
    escapeXml text = String.ofList (text.toList.flatMap entity) ∧
    (∀ c ∈ ['<', '>', '"', '\''], c ∉ (escapeXml text).toList) ∧
    (∀ front back, (escapeXml text).toList = front ++ '&' :: back →
      ∃ entry ∈ entityTable, entry.2.toList <+: '&' :: back) ∧
    unescapeXml (escapeXml text) = text := by
  have written := escapeXml_toList text
  refine ⟨?_, ?_, ?_, ?_⟩
  · rw [← written, String.ofList_toList]
  · intro c marked listed
    rw [written, List.mem_flatMap] at listed
    obtain ⟨d, _, listed⟩ := listed
    exact not_mem_entity marked d listed
  · intro front back split
    rw [written] at split
    exact ampersand_begins_entity split
  · rw [unescapeXml, written, unescapeChars_flatMap, String.ofList_toList]

/-- An entity in the text itself is escaped once more. -/
example : escapeXml "a<b&lt;" = "a&lt;b&amp;lt;" := by decide

/-! Error bodies. -/

theorem escapeXml_injective : Function.Injective escapeXml := by
  intro left right same
  have chars := congrArg String.toList same
  rw [escapeXml_toList, escapeXml_toList] at chars
  have read := congrArg unescapeChars chars
  rw [unescapeChars_flatMap, unescapeChars_flatMap] at read
  exact String.toList_inj.mp read

theorem escapeXml_bracketless (text : String) : '<' ∉ (escapeXml text).toList := by
  rw [escapeXml_toList, List.mem_flatMap]
  rintro ⟨c, _, listed⟩
  exact not_mem_entity (by simp) c listed

theorem S3ErrorCode.bracketless (code : S3ErrorCode) : '<' ∉ code.asStr.toList := by
  cases code <;> simp [asStr]

theorem S3ErrorCode.asStr_injective : Function.Injective S3ErrorCode.asStr := by
  intro left right
  cases left <;> cases right <;> simp [asStr]

/-- Three texts without brackets can be told apart in between fixed texts that begin with one. -/
private theorem framed_inj {opening second third closing first first' middle middle' last last' :
      String} {behindFirst behindMiddle behindLast : List Char}
    (brackets : second.toList = '<' :: behindFirst ∧ third.toList = '<' :: behindMiddle ∧
      closing.toList = '<' :: behindLast)
    (plain : '<' ∉ first.toList ∧ '<' ∉ middle.toList ∧ '<' ∉ last.toList)
    (plain' : '<' ∉ first'.toList ∧ '<' ∉ middle'.toList ∧ '<' ∉ last'.toList)
    (same : opening ++ first ++ second ++ middle ++ third ++ last ++ closing =
      opening ++ first' ++ second ++ middle' ++ third ++ last' ++ closing) :
    first = first' ∧ middle = middle' ∧ last = last' := by
  have chars := congrArg String.toList same
  simp only [String.toList_append, List.append_assoc, brackets.1, brackets.2.1, brackets.2.2,
    List.cons_append] at chars
  -- Each of the texts ends at the next bracket.
  obtain ⟨sameFirst, afterFirst⟩ :=
    append_separator_inj plain.1 plain'.1 (List.append_cancel_left chars)
  obtain ⟨sameMiddle, afterMiddle⟩ :=
    append_separator_inj plain.2.1 plain'.2.1 (List.append_cancel_left afterFirst)
  obtain ⟨sameLast, _⟩ :=
    append_separator_inj plain.2.2 plain'.2.2 (List.append_cancel_left afterMiddle)
  exact ⟨String.toList_inj.mp sameFirst, String.toList_inj.mp sameMiddle,
    String.toList_inj.mp sameLast⟩

/-- The body of an error tells its code, its message and its resource. -/
theorem S3ErrorResponse.toXml_injective : Function.Injective S3ErrorResponse.toXml := by
  intro left right same
  have codeEnd : "</Code><Message>".toList = '<' :: "/Code><Message>".toList := by simp
  have messageEnd : "</Message><Resource>".toList = '<' :: "/Message><Resource>".toList := by simp
  have resourceEnd : "</Resource></Error>".toList = '<' :: "/Resource></Error>".toList := by simp
  obtain ⟨code, message, resource⟩ := framed_inj ⟨codeEnd, messageEnd, resourceEnd⟩
    ⟨left.code.bracketless, escapeXml_bracketless left.message, escapeXml_bracketless left.resource⟩
    ⟨right.code.bracketless, escapeXml_bracketless right.message,
      escapeXml_bracketless right.resource⟩ same
  cases left
  cases right
  rw [S3ErrorResponse.mk.injEq]
  exact ⟨S3ErrorCode.asStr_injective code, escapeXml_injective message,
    escapeXml_injective resource⟩

end ColdStore
