import ColdStore.Rust.Text

/-! Cutting a text at a separator, trimming both its ends and replacing characters in it. -/

namespace Rust

/-- The parts of a text between the places of a separator. -/
def split (text : String) (separator : Char) : List String :=
  (text.toList.splitOn separator).map String.ofList

/-- The texts in front of the first separator and behind it, if there is one. -/
def splitOnce (text : String) (separator : Char) : Option (String × String) :=
  match text.toList.dropWhile fun c => c != separator with
  | [] => none
  | _ :: rest => some (splitFirst text separator, String.ofList rest)

/-- Drop the characters of one kind from both ends. -/
def trimChars (kind : Char → Bool) (chars : List Char) : List Char :=
  ((chars.dropWhile kind).reverse.dropWhile kind).reverse

/-- Drop every occurrence of a character at the two ends of a text. -/
def trimMatches (text : String) (c : Char) : String :=
  String.ofList (trimChars (fun d => d == c) text.toList)

/-- Drop every occurrence of a character at the end of a text. -/
def trimEndMatches (text : String) (c : Char) : String :=
  String.ofList (text.toList.reverse.dropWhile fun d => d == c).reverse

/-- Drop some characters from the beginning, as often as they are there. -/
def dropRepeated (front : List Char) : Nat → List Char → List Char
  -- The fuel bounds the number of times, which the characters cannot exceed.
  | 0, chars => chars
  | fuel + 1, chars =>
    if front.isPrefixOf chars then dropRepeated front fuel (chars.drop front.length) else chars

/-- Drop a text from the beginning of another, as often as it is there. -/
def trimStartMatches (text front : String) : String :=
  String.ofList (dropRepeated front.toList text.toList.length text.toList)

/-- The texts in front of the last separator and behind it, if there is one. -/
def rsplitOnce (text : String) (separator : Char) : Option (String × String) :=
  (splitOnce (String.ofList text.toList.reverse) separator).map fun (behind, before) =>
    (String.ofList before.toList.reverse, String.ofList behind.toList.reverse)

/-- Write a text in place of every occurrence of a character. -/
def replace (text : String) (c : Char) (replacement : String) : String :=
  String.ofList (text.toList.flatMap fun d => if d = c then replacement.toList else [d])

/-- Write the texts of a table in place of its characters, one character after the other. -/
def replaceAll (table : List (Char × String)) (text : String) : String :=
  table.foldl (fun text entry => replace text entry.1 entry.2) text

/-- What a table writes in place of one character. -/
def substitute (table : List (Char × String)) (c : Char) : List Char :=
  match table.lookup c with
  | some replacement => replacement.toList
  | none => [c]

/-- White space is the kind of character that plain trimming drops. -/
theorem trim_eq_trimChars (text : String) :
    trim text = String.ofList (trimChars isWhitespace text.toList) := rfl

private theorem splitOn_intercalate_flatMap {α : Type} [DecidableEq α] (separator : α) :
    ∀ {parts : List (List α)}, parts ≠ [] →
      ([separator].intercalate parts).splitOn separator =
        parts.flatMap fun part => part.splitOn separator
  | [], nonempty => absurd rfl nonempty
  | [part], _ => by simp
  | part :: next :: rest, _ => by
    rw [List.intercalate_cons_cons, List.append_assoc, List.singleton_append,
      List.splitOn_append_cons_self, splitOn_intercalate_flatMap separator (by simp)]
    rfl

/-- Cutting a text that was joined cuts every part by itself. -/
theorem split_join {separator : Char} {parts : List String} (nonempty : parts ≠ []) :
    split ((String.singleton separator).intercalate parts) separator =
      parts.flatMap fun part => split part separator := by
  rw [split, String.toList_intercalate, String.toList_singleton,
    splitOn_intercalate_flatMap separator (by simpa using nonempty), List.map_flatMap,
    List.flatMap_map]
  rfl

variable {text : String} {separator : Char}

/-- A text without the separator is its only part. -/
theorem split_of_not_mem (absent : separator ∉ text.toList) : split text separator = [text] := by
  rw [split, List.splitOn_eq_singleton absent, List.map_singleton, String.ofList_toList]

/-- A beginning without the separator is the beginning of a part. -/
theorem split_opening {front : String} (text : String) {separator : Char}
    (absent : separator ∉ front.toList) :
    ∃ part ∈ split (front ++ text) separator, startsWith part front = true := by
  by_cases cut : separator ∈ text.toList
  · -- The part goes up to the first separator in the text.
    obtain ⟨before, behind, whole, first⟩ := List.eq_append_cons_of_mem cut
    refine ⟨String.ofList (front.toList ++ before), ?_, ?_⟩
    · have plain : separator ∉ front.toList ++ before := by simp [absent, first]
      rw [split, String.toList_append, whole, ← List.append_assoc,
        List.splitOn_append_cons_self_of_not_mem plain]
      simp
    · rw [startsWith, List.isPrefixOf_iff_prefix, String.toList_ofList]
      exact List.prefix_append _ _
  · refine ⟨front ++ text, ?_, ?_⟩
    · rw [split_of_not_mem (by simp [absent, cut]), List.mem_singleton]
    · rw [startsWith, List.isPrefixOf_iff_prefix, String.toList_append]
      exact List.prefix_append _ _

/-- Cutting undoes joining, for parts that do not hold the separator themselves. -/
theorem split_intercalate {parts : List String} (nonempty : parts ≠ [])
    (apart : ∀ part ∈ parts, separator ∉ part.toList) :
    split ((String.singleton separator).intercalate parts) separator = parts := by
  rw [split_join nonempty]
  have single : ∀ part ∈ parts, split part separator = [part] := fun part mem =>
    split_of_not_mem (apart part mem)
  rw [List.flatMap_congr single, List.flatMap_singleton']

/-- A text is cut in one place, in front of which there is no separator. -/
theorem splitOnce_eq_some_iff {first rest : String} :
    splitOnce text separator = some (first, rest) ↔
      text.toList = first.toList ++ separator :: rest.toList ∧ separator ∉ first.toList := by
  constructor
  · intro cut
    unfold splitOnce at cut
    split at cut
    · cases cut
    · rename_i c behind dropped
      simp only [Option.some.injEq, Prod.mk.injEq] at cut
      obtain ⟨rfl, rfl⟩ := cut
      -- What is dropped up to is the separator.
      have stops : c = separator := by
        have kept := List.head?_dropWhile_not (fun c => c != separator) text.toList
        simpa [dropped] using kept
      have whole := @List.takeWhile_append_dropWhile _ (fun c => c != separator) text.toList
      rw [dropped, stops] at whole
      refine ⟨?_, ?_⟩
      · rw [splitFirst, String.toList_ofList, String.toList_ofList, whole]
      · intro mem
        rw [splitFirst, String.toList_ofList] at mem
        have kept := List.all_eq_true.mp List.all_takeWhile separator mem
        simp at kept
  · intro cut
    obtain ⟨whole, absent⟩ := cut
    have apart : ∀ c ∈ first.toList, (c != separator) = true := by
      intro c mem
      simpa using fun same : c = separator => absent (same ▸ mem)
    have dropped : (text.toList.dropWhile fun c => c != separator) = separator :: rest.toList := by
      rw [whole, List.dropWhile_append_of_pos apart]
      simp
    have taken : (text.toList.takeWhile fun c => c != separator) = first.toList := by
      rw [whole, List.takeWhile_append_of_pos apart]
      simp
    rw [splitOnce, dropped, splitFirst, taken]
    simp

theorem splitOnce_fst {first rest : String} (cut : splitOnce text separator = some (first, rest)) :
    splitFirst text separator = first := by
  unfold splitOnce at cut
  split at cut
  · cases cut
  · exact congrArg Prod.fst (Option.some.inj cut)

/-- Around a trimmed text there was nothing but white space. -/
theorem exists_around_trim (text : String) :
    ∃ front back, text.toList = front ++ (trim text).toList ++ back ∧
      (∀ c ∈ front, isWhitespace c = true) ∧ ∀ c ∈ back, isWhitespace c = true := by
  have opening := @List.takeWhile_append_dropWhile _ isWhitespace text.toList
  have closing := @List.takeWhile_append_dropWhile _ isWhitespace
    (text.toList.dropWhile isWhitespace).reverse
  refine ⟨text.toList.takeWhile isWhitespace,
    ((text.toList.dropWhile isWhitespace).reverse.takeWhile isWhitespace).reverse, ?_, ?_, ?_⟩
  · -- What is dropped from the end is dropped from the beginning of the reversed text.
    have kept := congrArg List.reverse closing
    rw [List.reverse_append, List.reverse_reverse] at kept
    rw [trim, String.toList_ofList, List.append_assoc, kept, opening]
  · exact List.all_eq_true.mp List.all_takeWhile
  · intro c mem
    exact List.all_eq_true.mp List.all_takeWhile c (List.mem_reverse.mp mem)

variable {front : List Char}

/-- White space in front of a text makes no difference to what is left of it. -/
theorem trim_append_left {chars : List Char} (blank : ∀ c ∈ front, isWhitespace c = true) :
    trim (String.ofList (front ++ chars)) = trim (String.ofList chars) := by
  rw [trim, trim, String.toList_ofList, String.toList_ofList, List.dropWhile_append_of_pos blank]

variable {kind : Char → Bool} {body : List Char}

private theorem dropWhile_of_opening (dropped : ∀ c ∈ front, kind c = true)
    (opens : ∀ c ∈ body.head?, kind c = false) : (front ++ body).dropWhile kind = body := by
  rw [List.dropWhile_append_of_pos dropped]
  -- Dropping stops at once, at the first character that stays.
  cases body with
  | nil => rfl
  | cons c rest => simp [opens c (by simp)]

/-- Trimming drops what is of the kind around a body that neither begins nor ends with the kind. -/
theorem trimChars_around {back : List Char} (before : ∀ c ∈ front, kind c = true)
    (after : ∀ c ∈ back, kind c = true) (opens : ∀ c ∈ body.head?, kind c = false)
    (closes : ∀ c ∈ body.getLast?, kind c = false) :
    trimChars kind (front ++ body ++ back) = body := by
  -- The back is dropped as the front of the reversed characters.
  have backwards : (back.reverse ++ body.reverse).dropWhile kind = body.reverse := by
    refine dropWhile_of_opening (fun c mem => after c (List.mem_reverse.mp mem)) ?_
    simpa [List.head?_reverse] using closes
  cases body with
  | nil =>
    have all : ∀ c ∈ front ++ back, kind c = true := by
      intro c mem
      exact (List.mem_append.mp mem).elim (before c) (after c)
    have gone : (front ++ back ++ []).dropWhile kind = [] := dropWhile_of_opening all (by simp)
    rw [List.append_nil] at gone ⊢
    rw [trimChars, gone]
    rfl
  | cons c rest =>
    have kept : (front ++ (c :: rest) ++ back).dropWhile kind = (c :: rest) ++ back := by
      rw [List.append_assoc]
      exact dropWhile_of_opening before (by simpa using opens)
    rw [trimChars, kept, List.reverse_append, backwards, List.reverse_reverse]

/-- Trimming gives back a body without the kind from between characters of the kind. -/
theorem trimChars_between {back : List Char} (before : ∀ c ∈ front, kind c = true)
    (after : ∀ c ∈ back, kind c = true) (clean : ∀ c ∈ body, kind c = false) :
    trimChars kind (front ++ body ++ back) = body :=
  trimChars_around before after (fun c mem => clean c (List.mem_of_mem_head? mem))
    (fun c mem => clean c (List.mem_of_getLast? mem))

/-- Characters that a table does not have stay as they are. -/
theorem flatMap_substitute_of_clean {table : List (Char × String)} {chars : List Char}
    (clean : ∀ entry ∈ table, entry.1 ∉ chars) : chars.flatMap (substitute table) = chars := by
  induction chars with
  | nil => rfl
  | cons c rest ih =>
    have missing : table.lookup c = none := by
      rw [List.lookup_eq_none_iff]
      intro entry mem
      have other : entry.1 ≠ c := fun same => clean entry mem (by simp [same])
      simpa using Ne.symm other
    have later : rest.flatMap (substitute table) = rest :=
      ih fun entry mem listed => clean entry mem (List.mem_cons_of_mem c listed)
    rw [List.flatMap_cons, later, substitute, missing]
    rfl

/--
Replacing one character after the other replaces all of them at once.

No text that is written holds a character that is still to be replaced.
-/
theorem replaceAll_eq {table : List (Char × String)}
    (apart : table.Pairwise fun earlier later => later.1 ∉ earlier.2.toList) (text : String) :
    replaceAll table text = String.ofList (text.toList.flatMap (substitute table)) := by
  -- By induction on the table: what the first entry writes, the later ones leave alone.
  induction table generalizing text with
  | nil =>
    rw [@flatMap_substitute_of_clean [] text.toList (by simp), String.ofList_toList]
    rfl
  | cons entry rest ih =>
    obtain ⟨replaced, written⟩ := entry
    obtain ⟨first, later⟩ := List.pairwise_cons.mp apart
    have step : replaceAll ((replaced, written) :: rest) text =
        replaceAll rest (replace text replaced written) := rfl
    rw [step, ih later, replace, String.toList_ofList, List.flatMap_assoc]
    congr 2
    funext c
    by_cases same : c = replaced
    · rw [if_pos same, flatMap_substitute_of_clean first, substitute, same, List.lookup_cons_self]
    · have other : (c == replaced) = false := by simpa using same
      rw [if_neg same, List.flatMap_singleton, substitute, substitute, List.lookup_cons, other]

end Rust
