import ColdStore.Gateway.GetObject
import ColdStore.Rust.Numeral

/-! Ranges of octets: which ones are accepted, and that they lie in the object. -/

namespace ColdStore

open Rust

/-! Bounds. -/

variable {endRaw : String} {size : Nat} {range : Option (Nat × Nat)}

theorem parseSuffixRange_bounds (positive : 0 < size)
    (accepted : parseSuffixRange endRaw size = .ok range) :
    ∃ start stop, range = some (start, stop) ∧ start ≤ stop ∧ stop < size := by
  simp only [parseSuffixRange, bind_eq_ok, okOr_eq_ok, ensure_eq_ok] at accepted
  obtain ⟨suffixLen, _, _, some_, returned⟩ := accepted
  cases returned
  have counted : suffixLen ≠ 0 := by simpa using some_
  exact ⟨size - suffixLen, size - 1, rfl, by omega, by omega⟩

theorem parseBoundedRange_bounds {startRaw : String}
    (accepted : parseBoundedRange startRaw endRaw size = .ok range) :
    ∃ start stop, range = some (start, stop) ∧ start ≤ stop ∧ stop < size := by
  simp only [parseBoundedRange, bind_eq_ok, okOr_eq_ok, ensure_eq_ok, decide_eq_true_eq] at accepted
  obtain ⟨start, _, _, inside, stop, _, _, ordered, returned⟩ := accepted
  cases returned
  refine ⟨start, _, rfl, ?_, ?_⟩
  -- An end behind the object is moved to its last octet, which is not in front of the start.
  · split <;> omega
  · split <;> omega

/-- Whatever is accepted is a range inside the object. -/
theorem parseByteRange_bounds {rawRange : String}
    (accepted : parseByteRange rawRange size = .ok range) :
    ∃ start stop, range = some (start, stop) ∧ start ≤ stop ∧ stop < size := by
  simp only [parseByteRange, bind_eq_ok, okOr_eq_ok, ensure_eq_ok] at accepted
  obtain ⟨spec, _, _, _, _, nonzero, _, _, cut, _, rest⟩ := accepted
  have positive : 0 < size := by
    have : size ≠ 0 := by simpa using nonzero
    omega
  split at rest
  · exact parseSuffixRange_bounds positive rest
  · exact parseBoundedRange_bounds rest

/-! The three forms. -/

/-- A text that can stand on one side of the dash. -/
def Bare (text : String) : Prop := ∀ c ∈ text.toList, isWhitespace c = false ∧ c ≠ ',' ∧ c ≠ '-'

theorem bare_empty : Bare "" := by
  intro c mem
  simp at mem

theorem bare_numeral {bits : Nat} (numeral : Numeral bits) : Bare numeral.text := by
  intro c mem
  refine ⟨isWhitespace_of_isDigit (numeral.digits c mem), ?_, ?_⟩
  · intro same
    exact numeral.not_mem (c := ',') rfl (same ▸ mem)
  · intro same
    exact numeral.not_mem (c := '-') rfl (same ▸ mem)

/-- A range of octets is what follows its unit. -/
theorem byteRangeSpec_bytes {spec : String} (plain : ∀ c ∈ spec.toList, isWhitespace c = false) :
    byteRangeSpec ("bytes=" ++ spec) = some spec := by
  have trimmed : trim ("bytes=" ++ spec) = "bytes=" ++ spec := by
    apply trim_of_plain
    intro c mem
    rw [String.toList_append, List.mem_append] at mem
    rcases mem with unit | rest
    · simp at unit
      rcases unit with rfl | rfl | rfl | rfl | rfl | rfl <;> decide
    · exact plain c rest
  have cut : splitOnce ("bytes=" ++ spec) '=' = some ("bytes", spec) := by
    rw [splitOnce_eq_some_iff]
    exact ⟨by simp, by decide⟩
  rw [byteRangeSpec, trimmed, cut]
  rfl

/-- With the unit and the dash in place, the two sides of the dash are parsed by themselves. -/
theorem parseByteRange_bytes {first last : String} (opening : Bare first) (closing : Bare last)
    (positive : 0 < size) :
    parseByteRange ("bytes=" ++ (first ++ "-" ++ last)) size =
      if first.isEmpty then parseSuffixRange last size else parseBoundedRange first last size := by
  have spec : byteRangeSpec ("bytes=" ++ (first ++ "-" ++ last)) = some (first ++ "-" ++ last) := by
    apply byteRangeSpec_bytes
    intro c mem
    simp only [String.toList_append, List.mem_append] at mem
    rcases mem with (left | dash) | right
    · exact (opening c left).1
    · obtain rfl : c = '-' := by simpa using dash
      rfl
    · exact (closing c right).1
  have filled : (first ++ "-" ++ last).isEmpty = false := by simp
  have single : (first ++ "-" ++ last).toList.contains ',' = false := by
    have left : ',' ∉ first.toList := fun mem => (opening _ mem).2.1 rfl
    have right : ',' ∉ last.toList := fun mem => (closing _ mem).2.1 rfl
    simp [left, right]
  have cut : splitOnce (first ++ "-" ++ last) '-' = some (first, last) := by
    rw [splitOnce_eq_some_iff]
    exact ⟨by simp, fun mem => (opening _ mem).2.2 rfl⟩
  have counted : (size != 0) = true := by simpa using Nat.ne_of_gt positive
  rw [parseByteRange, spec, okOr_some, ok_bind, filled, counted, single]
  simp only [Bool.not_false, ensure_true, ok_bind, cut, okOr_some]

/-- Between two positions that can be read, there is a range if they are in order and inside. -/
theorem parseBoundedRange_eq {startRaw : String} {start stop : Nat}
    (opens : parseUnsigned 64 startRaw = some start)
    (closes : (if endRaw.isEmpty then some (size - 1) else parseUnsigned 64 endRaw) = some stop) :
    parseBoundedRange startRaw endRaw size =
      if start ≤ stop ∧ start < size then .ok (some (start, min stop (size - 1)))
      else .error .unsatisfiable := by
  have read : (if endRaw.isEmpty then pure (size - 1)
      else okOr ByteRangeParseError.malformed (parseUnsigned 64 endRaw)) = .ok stop := by
    split at closes
    · rename_i none
      rw [if_pos none, ← Option.some.inj closes]
      rfl
    · rename_i filled
      rw [if_neg filled, closes, okOr_some]
  rw [parseBoundedRange, opens, okOr_some, ok_bind, read, ok_bind]
  by_cases inside : start < size
  · by_cases ordered : start ≤ stop
    · -- The end is cut to the last octet of the object.
      have cut : (if size ≤ stop then size - 1 else stop) = min stop (size - 1) := by split <;> omega
      simp only [decide_eq_true inside, decide_eq_true ordered, ensure_true, ok_bind, cut]
      rw [if_pos ⟨ordered, inside⟩]
      rfl
    · simp only [decide_eq_true inside, decide_eq_false ordered, ensure_true, ensure_false, ok_bind,
        error_bind]
      rw [if_neg fun both => ordered both.1]
  · simp only [decide_eq_false inside, ensure_false, error_bind]
    rw [if_neg fun both => inside both.2]

section

variable (first last : Numeral 64) {size : Nat} (positive : 0 < size)
include positive

/-- From one position to another. -/
theorem parseByteRange_both : parseByteRange ("bytes=" ++ (first.text ++ "-" ++ last.text)) size =
    if first.value ≤ last.value ∧ first.value < size then
      .ok (some (first.value, min last.value (size - 1)))
    else .error .unsatisfiable := by
  rw [parseByteRange_bytes (bare_numeral first) (bare_numeral last) positive, first.not_isEmpty]
  apply parseBoundedRange_eq first.parseUnsigned_text
  rw [last.not_isEmpty]
  exact last.parseUnsigned_text

/-- From a position to the end. -/
theorem parseByteRange_open : parseByteRange ("bytes=" ++ (first.text ++ "-")) size =
    if first.value < size then .ok (some (first.value, size - 1)) else .error .unsatisfiable := by
  have bytes := parseByteRange_bytes (bare_numeral first) bare_empty positive
  rw [String.append_empty, first.not_isEmpty] at bytes
  rw [bytes, if_neg Bool.false_ne_true, parseBoundedRange_eq first.parseUnsigned_text rfl,
    Nat.min_self]
  -- The last octet is behind every position inside.
  have inside : first.value ≤ size - 1 ∧ first.value < size ↔ first.value < size := by omega
  simp only [inside]

/-- The last octets, as many as there are at most. -/
theorem parseByteRange_suffix : parseByteRange ("bytes=" ++ ("-" ++ last.text)) size =
    if 1 ≤ last.value then .ok (some (size - min last.value size, size - 1))
    else .error .malformed := by
  have bytes := parseByteRange_bytes bare_empty (bare_numeral last) positive
  rw [String.empty_append] at bytes
  rw [bytes, if_pos (show "".isEmpty = true from rfl), parseSuffixRange,
    last.parseUnsigned_text, okOr_some, ok_bind]
  by_cases counted : 1 ≤ last.value
  · have nonzero : (last.value != 0) = true := by simpa using Nat.ne_of_gt counted
    have start : size - last.value = size - min last.value size := by omega
    rw [nonzero, ensure_true, ok_bind, if_pos counted, start]
    rfl
  · have zero : (last.value != 0) = false := by
      simp only [bne_eq_false_iff_eq]
      omega
    rw [zero, ensure_false, error_bind, if_neg counted]

end

/-! Responses. -/

private theorem lookup_replaced (headers : List (String × String)) (name value other : String) :
    (headers.map fun header => if header.1 = name then (name, value) else header).lookup other =
      if other = name then (headers.lookup name).map fun _ => value else headers.lookup other := by
  induction headers with
  | nil => simp
  | cons header rest ih =>
    obtain ⟨key, old⟩ := header
    -- Only an entry of the name changes, and it keeps its name.
    by_cases replaced : key = name
    · subst replaced
      by_cases same : other = key
      · simp [same]
      · simp [ih, same, List.lookup_cons, beq_eq_false_iff_ne.mpr same]
    · by_cases same : other = key
      · simp [same, replaced]
      · have kept : (name == key) = false := beq_eq_false_iff_ne.mpr (Ne.symm replaced)
        simp [ih, replaced, List.lookup_cons, beq_eq_false_iff_ne.mpr same, kept]

/-- A header that is set has the new value, and the others keep theirs. -/
theorem lookup_insertHeader (headers : List (String × String)) (name value other : String) :
    (insertHeader headers name value).lookup other =
      if other = name then some value else headers.lookup other := by
  unfold insertHeader
  split
  · rename_i present
    obtain ⟨old, found⟩ := Option.isSome_iff_exists.mp present
    rw [lookup_replaced, found, Option.map_some]
  · rename_i absent
    have missing : headers.lookup name = none := Option.not_isSome_iff_eq_none.mp absent
    rw [List.lookup_append]
    by_cases same : other = name
    · simp [same, missing]
    · simp [List.lookup_cons, same, beq_eq_false_iff_ne.mpr same]

/-- A range inside the object is served, with its length announced. -/
theorem rangeResponse_of_inside (formatHttpDate : Int → Option String) {obj : DownloadedObject}
    (small : obj.body.length ≤ u64Max) {start stop : Nat} (ordered : start ≤ stop)
    (inside : stop < obj.body.length) :
    ∃ part, slice obj.body start (stop + 1) = some part ∧ part.length = stop - start + 1 ∧
      ∀ headers, applyObjectHeaders formatHttpDate [] obj.head = some headers →
        ∃ response, rangeResponse formatHttpDate obj (start, stop) = some response ∧
          response.status = 206 ∧ response.body = part ∧
          response.headers.lookup "content-length" = some (decimal part.length) := by
  have cut := slice_of_le (Nat.le_succ_of_le ordered) (Nat.succ_le_of_lt inside)
  have length := length_of_slice cut
  refine ⟨_, cut, by omega, fun headers described => ?_⟩
  have announced : saturatingAdd (stop - start) 1 = stop + 1 - start := by
    rw [saturatingAdd_eq (by omega)]
    omega
  rw [rangeResponse, cut, described]
  refine ⟨_, rfl, rfl, rfl, ?_⟩
  -- The length of the whole object was announced first, and is replaced.
  rw [lookup_insertHeader, if_neg (by decide), lookup_insertHeader, if_neg (by decide),
    lookup_insertHeader, if_pos rfl, announced, length]

/-- A request for an accepted range is answered with it. -/
theorem getObject_of_range {date : String → Option Int} (formatHttpDate : Int → Option String)
    {headers : GetHeaders} {resource rawRange : String}
    {headObject : Except Status HeadObjectResponse} (obj : DownloadedObject) {range : Nat × Nat}
    (passed : checkReadPreconditions date headers.toReadHeaders resource headObject = .ok none)
    (asked : headers.range = some (some rawRange))
    (accepted : parseByteRange rawRange obj.body.length = .ok (some range)) :
    getObject date formatHttpDate headers resource headObject (.ok obj) =
      (rangeResponse formatHttpDate obj range).map .inr := by
  have requested : requestedRange (some rawRange) obj.body.length resource = .ok range := by
    rw [requestedRange, parseRangeHeader, accepted]
    rfl
  simp only [getObject, passed, asked, requested]

/--
A range that is accepted lies inside the object. Its octets can be cut out, and as many are sent as
the response announces.

Ranges between two numerals, from a numeral on and of the last octets are accepted as far as they
reach into the object, and refused otherwise.
-/
theorem accepted_ranges_inside_and_read :
    (∀ rawRange size range, parseByteRange rawRange size = .ok range →
      ∃ start stop, range = some (start, stop) ∧ start ≤ stop ∧ stop < size) ∧
    (∀ date formatHttpDate (headers : GetHeaders) resource headObject (obj : DownloadedObject)
        rawRange start stop, obj.body.length ≤ u64Max →
      parseByteRange rawRange obj.body.length = .ok (some (start, stop)) →
      ∃ part, slice obj.body start (stop + 1) = some part ∧ part.length = stop - start + 1 ∧
        ∀ described, applyObjectHeaders formatHttpDate [] obj.head = some described →
          checkReadPreconditions date headers.toReadHeaders resource headObject = .ok none →
          headers.range = some (some rawRange) →
          ∃ response, getObject date formatHttpDate headers resource headObject (.ok obj) =
              some (.inr response) ∧ response.status = 206 ∧ response.body = part ∧
            response.headers.lookup "content-length" = some (decimal part.length)) ∧
    (∀ (first last : Numeral 64) (size : Nat), 0 < size →
      parseByteRange ("bytes=" ++ (first.text ++ "-" ++ last.text)) size =
        (if first.value ≤ last.value ∧ first.value < size then
          .ok (some (first.value, min last.value (size - 1)))
        else .error .unsatisfiable) ∧ parseByteRange ("bytes=" ++ (first.text ++ "-")) size =
        (if first.value < size then .ok (some (first.value, size - 1))
        else .error .unsatisfiable) ∧ parseByteRange ("bytes=" ++ ("-" ++ last.text)) size =
        (if 1 ≤ last.value then .ok (some (size - min last.value size, size - 1))
        else .error .malformed)) := by
  refine ⟨fun _ _ _ accepted => parseByteRange_bounds accepted, ?_, ?_⟩
  · intro date formatHttpDate headers resource headObject obj rawRange start stop small accepted
    obtain ⟨_, _, same, ordered, inside⟩ := parseByteRange_bounds accepted
    cases same
    obtain ⟨part, cut, length, served⟩ :=
      rangeResponse_of_inside formatHttpDate small ordered inside
    refine ⟨part, cut, length, fun described applied passed asked => ?_⟩
    obtain ⟨response, sent, status, body, announced⟩ := served described applied
    refine ⟨response, ?_, status, body, announced⟩
    rw [getObject_of_range formatHttpDate obj passed asked accepted, sent, Option.map_some]
  · intro first last size positive
    exact ⟨parseByteRange_both first last positive, parseByteRange_open first positive,
      parseByteRange_suffix last positive⟩

example : parseByteRange " BYTES=+2-9" 5 = .ok (some (2, 4)) := by decide

end ColdStore
