import ColdStore.Gateway.PostObject
import ColdStore.Proofs.Escaping

/-! Requests for a restore: which queries are taken for one. -/

namespace ColdStore

open Rust

/-- An item of a query that asks for a restore. -/
def AsksRestore (item : String) : Prop := item = "restore" ∨ startsWith item "restore=" = true

/-! Items. -/

theorem startsWith_restore_iff (item : String) :
    startsWith item "restore=" = true ↔ ∃ rest, item.toList = "restore".toList ++ '=' :: rest := by
  have opening : "restore=".toList = "restore".toList ++ ['='] := by simp
  rw [startsWith, List.isPrefixOf_iff_prefix, opening]
  constructor
  · intro opens
    obtain ⟨rest, whole⟩ := opens
    exact ⟨rest, by rw [← whole, List.append_assoc, List.singleton_append]⟩
  · intro cut
    obtain ⟨rest, whole⟩ := cut
    exact ⟨rest, by rw [whole, List.append_assoc, List.singleton_append]⟩

/-- A parameter of the name is found whatever its value holds. -/
theorem restore_parameter_asks (value : String) :
    ∃ item ∈ split (renderParameter ("restore", value)) '&', AsksRestore item := by
  unfold renderParameter
  split
  · rw [split_of_not_mem (by simp)]
    exact ⟨"restore", by simp, Or.inl rfl⟩
  · -- The item of the name goes at least as far as the sign behind the name.
    obtain ⟨item, mem, opens⟩ := @split_opening "restore=" value '&' (by simp)
    exact ⟨item, by simpa using mem, Or.inr opens⟩

/-- A parameter of another name is not, if it holds none of the separators. -/
theorem other_parameter_does_not_ask {name value : String} (other : name ≠ "restore")
    (whole : '&' ∉ name.toList ∧ '&' ∉ value.toList) (plain : '=' ∉ name.toList) :
    ¬ ∃ item ∈ split (renderParameter (name, value)) '&', AsksRestore item := by
  have unequal : '=' ∉ "restore".toList := by simp
  unfold renderParameter
  split
  · rw [split_of_not_mem whole.1]
    rintro ⟨item, mem, asks⟩
    rw [List.mem_singleton] at mem
    subst mem
    rcases asks with same | opens
    · exact other same
    · obtain ⟨rest, cut⟩ := (startsWith_restore_iff _).mp opens
      exact plain (by simp [cut])
  · have joined : '&' ∉ (name ++ "=" ++ value).toList := by simp [whole]
    have chars : (name ++ "=" ++ value).toList = name.toList ++ '=' :: value.toList := by simp
    rw [split_of_not_mem joined]
    rintro ⟨item, mem, asks⟩
    rw [List.mem_singleton] at mem
    subst mem
    rcases asks with same | opens
    · rw [← same, chars] at unequal
      simp at unequal
    · -- Both are cut at their first sign, so the names in front of it are the same.
      obtain ⟨rest, cut⟩ := (startsWith_restore_iff _).mp opens
      rw [chars] at cut
      exact other (String.toList_inj.mp (append_separator_inj plain unequal cut).1)

/-! Queries. -/

/-- The query is taken for a restore if what one of its parameters is written as has such an item. -/
theorem isRestoreRequest_rawQuery (query : HashMap String String) :
    isRestoreRequest (rawQuery query) = true ↔
      ∃ name value, query.get name = some value ∧
        ∃ item ∈ split (renderParameter (name, value)) '&', AsksRestore item := by
  have asks : ∀ parts : List String,
      (parts.any fun item => item == "restore" || startsWith item "restore=") = true ↔
        ∃ item ∈ parts, AsksRestore item := by
    intro parts
    simp [AsksRestore]
  rw [isRestoreRequest, asks]
  by_cases empty : query.entries = []
  · -- Without parameters, the empty text is the only item.
    have missing : rawQuery query = none := if_pos (by simp [HashMap.isEmpty, empty])
    rw [missing]
    constructor
    · rintro ⟨item, mem, asks⟩
      have blank : item = "" := by simpa [split] using mem
      subst blank
      rcases asks with same | opens
      · exact absurd same (by decide)
      · exact absurd opens (by decide)
    · rintro ⟨name, value, stored, _⟩
      have mem := (query.mem_entries name value).mpr stored
      simp [empty] at mem
  · have joined : rawQuery query = some ("&".intercalate (query.entries.map renderParameter)) :=
      if_neg (by simpa [HashMap.isEmpty] using empty)
    have cut := @split_join '&' (query.entries.map renderParameter) (by simpa using empty)
    have sign : String.singleton '&' = "&" := rfl
    rw [sign] at cut
    rw [joined, Option.getD_some, cut]
    constructor
    · rintro ⟨item, mem, asks⟩
      obtain ⟨part, listed, within⟩ := List.mem_flatMap.mp mem
      obtain ⟨⟨name, value⟩, stored, rfl⟩ := List.mem_map.mp listed
      exact ⟨name, value, (query.mem_entries name value).mp stored, item, within, asks⟩
    · rintro ⟨name, value, stored, item, within, asks⟩
      have listed := List.mem_map_of_mem (f := renderParameter)
        ((query.mem_entries name value).mpr stored)
      exact ⟨item, List.mem_flatMap.mpr ⟨_, listed, within⟩, asks⟩

/-- Another parameter than that of the name is written so that it asks for a restore. -/
def OthersAsk (query : HashMap String String) : Prop :=
  ∃ name value, name ≠ "restore" ∧ query.get name = some value ∧
    ∃ item ∈ split (renderParameter (name, value)) '&', AsksRestore item

/-- Besides the parameter of the name, only what others are written as can ask for a restore. -/
theorem isRestoreRequest_iff (query : HashMap String String) :
    isRestoreRequest (rawQuery query) = true ↔
      query.containsKey "restore" = true ∨ OthersAsk query := by
  rw [isRestoreRequest_rawQuery, HashMap.containsKey, Option.isSome_iff_exists]
  constructor
  · rintro ⟨name, value, stored, asks⟩
    by_cases named : name = "restore"
    · exact .inl ⟨value, named ▸ stored⟩
    · exact .inr ⟨name, value, named, stored, asks⟩
  · rintro (⟨value, stored⟩ | ⟨name, value, _, stored, asks⟩)
    · exact ⟨"restore", value, stored, restore_parameter_asks value⟩
    · exact ⟨name, value, stored, asks⟩

/-! Responses. -/

theorem grpcStatusToS3Response_fields (status : Status) (resource : String) :
    (grpcStatusToS3Response status resource).status = (s3ErrorOf status resource).2.1 ∧
      (grpcStatusToS3Response status resource).body =
        S3ErrorResponse.toXml ⟨(s3ErrorOf status resource).1, status.message, resource⟩ := by
  unfold grpcStatusToS3Response
  -- Only the headers depend on the time to wait.
  rcases s3ErrorOf status resource with ⟨code, httpStatus, _ | seconds⟩ <;> exact ⟨rfl, rfl⟩

/-- A failure that is reported as a bad request is reported as an invalid argument. -/
theorem s3ErrorOf_bad_request {status : Status} {resource : String}
    (bad : (s3ErrorOf status resource).2.1 = 400) :
    (s3ErrorOf status resource).1 = .invalidArgument := by
  obtain ⟨code, message⟩ := status
  cases code with
  | invalidArgument => rfl
  | unavailable =>
    simp only [s3ErrorOf] at bad
    split at bad <;> cases bad
  | resourceExhausted =>
    simp only [s3ErrorOf] at bad ⊢
    -- Only a request for more than the cache can hold is the client's fault.
    cases hint : cacheRejectStatusHint message with
    | none => simp [hint] at bad
    | some reason => cases reason <;> simp [hint] at bad ⊢
  | _ => cases bad

/-- No response to a restore is that to another action. -/
theorem restoreResponse_ne (restoreObject : RestoreRequest → Except Status Nat)
    (query : HashMap String String) (body : Bytes) (operation resource : String) :
    restoreResponse restoreObject query body resource ≠ badRequestResponse operation resource := by
  intro same
  have code := congrArg Response.status same
  have text := congrArg Response.body same
  -- An error body of another code is another text.
  have unlike : ∀ {error : S3ErrorResponse}, error.code = .invalidArgument →
      error.toXml ≠ (badRequestResponse operation resource).body := by
    intro error named read
    have same := congrArg S3ErrorResponse.code (S3ErrorResponse.toXml_injective read)
    rw [named] at same
    cases same
  unfold restoreResponse at code text
  cases parsed : parseRestoreRequest query body with
  | error refused =>
    rw [parsed] at text
    exact unlike rfl text
  | ok req =>
    simp only [parsed] at code text
    cases answered : restoreObject req with
    | ok statusCode =>
      simp only [answered, emptyResponse] at code
      split at code
      · rename_i listed
        obtain rfl : statusCode = 400 := code
        exact absurd listed (by decide)
      · cases code
    | error status =>
      simp only [answered] at code text
      obtain ⟨sentStatus, sentBody⟩ := grpcStatusToS3Response_fields status resource
      rw [sentStatus] at code
      rw [sentBody] at text
      exact unlike (s3ErrorOf_bad_request code) text

section

variable (restoreObject : RestoreRequest → Except Status Nat) (bucket key : String)
  (query : HashMap String String) (body : Bytes)

/-- A post is treated as a restore: it is not refused as another action. -/
def TreatedAsRestore : Prop :=
  postObject restoreObject bucket key query body ≠
    badRequestResponse "UnsupportedPostAction" ("/" ++ bucket ++ "/" ++ key)

/-- What tells whether a post is a restore is the joined query. -/
theorem treatedAsRestore_iff : TreatedAsRestore restoreObject bucket key query body ↔
    isRestoreRequest (rawQuery query) = true := by
  unfold TreatedAsRestore postObject
  by_cases asks : isRestoreRequest (rawQuery query) = true
  · simp only [asks, Bool.not_true, Bool.false_eq_true, if_false]
    exact iff_of_true (restoreResponse_ne _ _ _ _ _) trivial
  · simp only [Bool.not_eq_true] at asks
    simp [asks]

/--
A post is taken for a restore if it has the parameter of that name, or if another parameter is
written in a way that the joined query has such an item.

So a post is taken for what it is unless another parameter asks and that of the name is missing.
This does not happen to parameters whose names hold neither of the two separators, and whose values
do not hold the one between parameters.
-/
theorem post_restores_iff :
    (TreatedAsRestore restoreObject bucket key query body ↔
      query.containsKey "restore" = true ∨ OthersAsk query) ∧
    ((TreatedAsRestore restoreObject bucket key query body ↔ query.containsKey "restore" = true) ↔
      (OthersAsk query → query.containsKey "restore" = true)) ∧
    ((∀ name value, query.get name = some value →
        '&' ∉ name.toList ∧ '=' ∉ name.toList ∧ '&' ∉ value.toList) →
      (TreatedAsRestore restoreObject bucket key query body ↔
        query.containsKey "restore" = true)) := by
  rw [treatedAsRestore_iff, isRestoreRequest_iff]
  refine ⟨Iff.rfl, or_iff_left_iff_imp, fun clean => ⟨?_, Or.inl⟩⟩
  rintro (named | ⟨name, value, other, stored, asks⟩)
  · exact named
  · obtain ⟨nameWhole, plain, valueWhole⟩ := clean name value stored
    exact absurd asks (other_parameter_does_not_ask other ⟨nameWhole, valueWhole⟩ plain)

end

/-- Posts without the parameter that are taken for a restore, by a value and by a name. -/
theorem post_restores_without_parameter :
    (HashMap.empty.insert "x" "1&restore").containsKey "restore" = false ∧
      postObject (fun _ => .ok 202) "docs" "a" (HashMap.empty.insert "x" "1&restore") [] =
        emptyResponse 202 ∧ (HashMap.empty.insert "restore=x" "").containsKey "restore" = false ∧
      postObject (fun _ => .ok 202) "docs" "a" (HashMap.empty.insert "restore=x" "") [] =
        emptyResponse 202 := by decide

end ColdStore
