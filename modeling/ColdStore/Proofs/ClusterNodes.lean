import ColdStore.Metadata.Cluster
import ColdStore.Rust.Iter
import ColdStore.Rust.Numeral

/-! The nodes of a cluster: those that a configuration is accepted with, and those reported. -/

namespace ColdStore

open Rust

/-- The number that a node is reported with, for an entry of the configuration. -/
def reportedId (entry : String) : Option Nat :=
  (splitOnce entry ':').bind fun cut => parseUnsigned 64 cut.1

/-- The number that a node is accepted with, for an entry that may be blank. -/
def acceptedId (entry : String) : Option Nat :=
  if (trim entry).isEmpty then none else parseUnsigned 64 (trim (splitFirst entry ':'))

/-! Single entries. -/

variable {entry : String}

/-- The number in an entry is the same whether or not the entry was trimmed before. -/
theorem splitOnce_of_trim {first rest : String}
    (cut : splitOnce (trim entry) ':' = some (first, rest)) :
    ∃ behind, splitOnce entry ':' = some (splitFirst entry ':', behind) ∧
      trim (splitFirst entry ':') = trim first := by
  obtain ⟨whole, absent⟩ := splitOnce_eq_some_iff.mp cut
  obtain ⟨front, back, around, blankFront, _⟩ := exists_around_trim entry
  -- The white space in front becomes part of what is in front of the colon.
  have colonless : ':' ∉ front := by
    intro mem
    exact absurd (blankFront ':' mem) (by decide)
  have raw : splitOnce entry ':' =
      some (String.ofList (front ++ first.toList), String.ofList (rest.toList ++ back)) := by
    rw [splitOnce_eq_some_iff]
    refine ⟨?_, by simp [colonless, absent]⟩
    rw [around, whole]
    simp
  have named := splitOnce_fst raw
  refine ⟨_, named ▸ raw, ?_⟩
  rw [named, trim_append_left blankFront, String.ofList_toList]

/-- An entry that is accepted has its number in front of its first colon. -/
theorem parseClusterEntry_id {node : MetadataClusterNode}
    (accepted : parseClusterEntry (trim entry) = .ok node) :
    acceptedId entry = some node.nodeId ∧
      reportedId entry = parseUnsigned 64 (splitFirst entry ':') := by
  simp only [parseClusterEntry, bind_eq_ok, okOr_eq_ok, ensure_eq_ok] at accepted
  obtain ⟨⟨first, rest⟩, cut, nodeId, parsed, _, _, returned⟩ := accepted
  cases returned
  obtain ⟨behind, raw, same⟩ := splitOnce_of_trim cut
  have filled : (trim entry).isEmpty = false := by
    have chars := (splitOnce_eq_some_iff.mp cut).1
    rw [← Bool.not_eq_true, String.isEmpty_iff, ← String.toList_eq_nil_iff, chars]
    simp
  refine ⟨?_, by rw [reportedId, raw, Option.bind_some]⟩
  rw [acceptedId, filled, if_neg Bool.false_ne_true, same, parsed]

/-- No node is reported for a blank entry. -/
theorem reportedId_blank (blank : trim entry = "") : reportedId entry = none := by
  obtain ⟨front, back, around, blankFront, blankBack⟩ := exists_around_trim entry
  have uncut : splitOnce entry ':' = none := by
    cases cut : splitOnce entry ':' with
    | none => rfl
    | some parts =>
      obtain ⟨whole, _⟩ := splitOnce_eq_some_iff.mp cut
      -- A colon is not white space.
      have mem : ':' ∈ front ++ back := by
        rw [blank] at around
        simp only [String.toList_empty, List.append_nil] at around
        rw [← around, whole]
        simp
      rcases List.mem_append.mp mem with inFront | inBack
      · exact absurd (blankFront _ inFront) (by decide)
      · exact absurd (blankBack _ inBack) (by decide)
  rw [reportedId, uncut, Option.bind_none]

/-- An accepted entry is reported with its number if there is no white space around the number. -/
theorem reportedId_eq_iff {node : MetadataClusterNode}
    (accepted : parseClusterEntry (trim entry) = .ok node) :
    (reportedId entry = none ∨ reportedId entry = acceptedId entry) ∧
      (reportedId entry = acceptedId entry ↔ trim (splitFirst entry ':') = splitFirst entry ':') := by
  obtain ⟨known, reported⟩ := parseClusterEntry_id accepted
  have found : acceptedId entry = parseUnsigned 64 (trim (splitFirst entry ':')) := by
    rw [acceptedId] at known ⊢
    split at known
    · cases known
    · rename_i filled
      rw [if_neg filled]
  -- A number that can be read as it stands has no white space around it.
  have plain : ∀ value, reportedId entry = some value →
      trim (splitFirst entry ':') = splitFirst entry ':' := by
    intro value read
    exact trim_of_plain (isWhitespace_of_parseUnsigned (reported ▸ read))
  constructor
  · cases read : reportedId entry with
    | none => exact Or.inl rfl
    | some value =>
      right
      rw [found, plain value read, ← reported, read]
  · constructor
    · intro same
      exact plain node.nodeId (same.trans known)
    · intro same
      rw [found, same, reported]

/-! Whole configurations. -/

variable {parsed nodes : List MetadataClusterNode}

/-- The nodes that are read from some entries, behind those that were there. -/
theorem parseClusterEntries_ids {raws : List String}
    (accepted : parseClusterEntries parsed
      ((raws.map trim).filter fun entry => !entry.isEmpty) = .ok nodes) :
    nodes.map MetadataClusterNode.nodeId =
        parsed.map MetadataClusterNode.nodeId ++ raws.filterMap acceptedId ∧
      ∀ entry ∈ raws, trim entry ≠ "" → ∃ node, parseClusterEntry (trim entry) = .ok node := by
  induction raws generalizing parsed with
  | nil =>
    cases accepted
    simp
  | cons entry rest ih =>
    rw [List.map_cons] at accepted
    by_cases blank : trim entry = ""
    · -- A blank entry is skipped.
      rw [List.filter_cons_of_neg (by simp [blank])] at accepted
      obtain ⟨ids, others⟩ := ih accepted
      have skipped : acceptedId entry = none := by rw [acceptedId, blank]; rfl
      refine ⟨by rw [List.filterMap_cons_none skipped, ids], fun other mem filled => ?_⟩
      rcases List.mem_cons.mp mem with rfl | later
      · exact absurd blank filled
      · exact others other later filled
    · rw [List.filter_cons_of_pos (by simpa using blank), parseClusterEntries] at accepted
      simp only [bind_eq_ok, ensure_eq_ok] at accepted
      obtain ⟨node, read, _, _, _, _, later⟩ := accepted
      obtain ⟨ids, others⟩ := ih later
      refine ⟨?_, fun other mem filled => ?_⟩
      · rw [List.filterMap_cons_some (parseClusterEntry_id read).1, ids]
        simp
      · rcases List.mem_cons.mp mem with rfl | behind
        · exact ⟨node, read⟩
        · exact others other behind filled

private theorem nodup_map_concat {α β : Type} {items : List α} {item : α} {key : α → β}
    (distinct : (items.map key).Nodup) (fresh : key item ∉ items.map key) :
    ((items ++ [item]).map key).Nodup := by
  rw [List.map_append, List.map_singleton, List.nodup_append]
  refine ⟨distinct, by simp, fun other mem last same => ?_⟩
  rw [List.mem_singleton] at same
  intro equal
  exact fresh (same ▸ equal ▸ mem)

/-- Neither a number nor an address is accepted twice. -/
theorem parseClusterEntries_nodup {entries : List String}
    (accepted : parseClusterEntries parsed entries = .ok nodes)
    (ids : (parsed.map MetadataClusterNode.nodeId).Nodup)
    (listens : (parsed.map MetadataClusterNode.listen).Nodup) :
    (nodes.map MetadataClusterNode.nodeId).Nodup ∧
      (nodes.map MetadataClusterNode.listen).Nodup := by
  induction entries generalizing parsed with
  | nil =>
    cases accepted
    exact ⟨ids, listens⟩
  | cons entry rest ih =>
    rw [parseClusterEntries] at accepted
    simp only [bind_eq_ok, ensure_eq_ok] at accepted
    obtain ⟨node, _, _, newId, _, newListen, later⟩ := accepted
    -- The new node goes behind the others after both checks.
    exact ih later (nodup_map_concat ids (by simpa using newId))
      (nodup_map_concat listens (by simpa using newListen))

theorem metadataNodes_ids (cluster : String) (leaderHint : Option Nat) (now : Nat → Timestamp) :
    (metadataNodes cluster leaderHint now).map MetadataNodeInfo.nodeId =
      (split cluster ',').filterMap reportedId := by
  have entries : (split cluster ',').filterMap reportedId =
      (split cluster ',').zipIdx.filterMap fun entry => reportedId entry.1 := by
    conv_lhs => rw [← List.zipIdx_map_fst 0 (split cluster ',')]
    rw [List.filterMap_map]
    rfl
  rw [entries, metadataNodes, List.map_filterMap]
  congr 1
  funext line
  obtain ⟨entry, position⟩ := line
  -- Only the number of a node matters here.
  simp only [reportedId]
  cases splitOnce entry ':' with
  | none => rfl
  | some cut =>
    show Option.map MetadataNodeInfo.nodeId ((parseUnsigned 64 cut.1).bind _) = parseUnsigned 64 cut.1
    cases parseUnsigned 64 cut.1 <;> rfl

/--
The nodes of an accepted configuration have different numbers and different addresses.

The nodes that are reported have the same numbers in the same order, if no entry has white space
around its number.
-/
theorem cluster_nodes_reported_iff {cluster : String} {nodes : List MetadataClusterNode}
    (accepted : parseClusterNodes cluster = .ok nodes) (leaderHint : Option Nat)
    (now : Nat → Timestamp) :
    (nodes.map MetadataClusterNode.nodeId).Nodup ∧ (nodes.map MetadataClusterNode.listen).Nodup ∧
    ((metadataNodes cluster leaderHint now).map MetadataNodeInfo.nodeId =
        nodes.map MetadataClusterNode.nodeId ↔ ∀ entry ∈ split cluster ',', trim entry ≠ "" →
        trim (splitFirst entry ':') = splitFirst entry ':') := by
  simp only [parseClusterNodes, bind_eq_ok, ensure_eq_ok] at accepted
  obtain ⟨parsed, read, _, _, returned⟩ := accepted
  cases returned
  obtain ⟨ids, entries⟩ := parseClusterEntries_ids read
  obtain ⟨distinct, apart⟩ := parseClusterEntries_nodup read (by simp) (by simp)
  refine ⟨distinct, apart, ?_⟩
  -- A blank entry is neither accepted nor reported.
  have blank : ∀ entry, trim entry = "" → reportedId entry = none ∧ acceptedId entry = none := by
    intro entry blank
    exact ⟨reportedId_blank blank, by rw [acceptedId, blank]; rfl⟩
  have part : ∀ entry ∈ split cluster ',',
      reportedId entry = none ∨ reportedId entry = acceptedId entry := by
    intro entry mem
    by_cases empty : trim entry = ""
    · exact Or.inl (blank entry empty).1
    · obtain ⟨node, read⟩ := entries entry mem empty
      exact (reportedId_eq_iff read).1
  rw [metadataNodes_ids, ids, List.map_nil, List.nil_append, filterMap_eq_iff_of_fewer part]
  refine forall₂_congr fun entry mem => ?_
  by_cases empty : trim entry = ""
  · obtain ⟨reported, known⟩ := blank entry empty
    rw [reported, known]
    exact iff_of_true rfl fun filled => absurd empty filled
  · obtain ⟨node, read⟩ := entries entry mem empty
    rw [(reportedId_eq_iff read).2]
    exact ⟨fun same _ => same, fun same => same empty⟩

/-- White space around an entry does no harm behind the number. -/
theorem cluster_nodes_reported_iff_plain :
    (metadataNodes "1:a ,2: http://b/" (some 2) fun _ => {}).map MetadataNodeInfo.nodeId =
      [1, 2] := by
  have read : parseClusterNodes "1:a ,2: http://b/" = .ok [⟨1, "a"⟩, ⟨2, "b"⟩] := by decide
  exact (cluster_nodes_reported_iff read (some 2) fun _ => {}).2.2.mpr (by decide)

/--
With a space behind the comma the second node is not reported, and with a space in front of its
entry the only node is not, although it can be started.
-/
theorem node_behind_space_unreported :
    parseClusterNodes "1:a, 2:b" = .ok [⟨1, "a"⟩, ⟨2, "b"⟩] ∧
    (metadataNodes "1:a, 2:b" none fun _ => {}).map MetadataNodeInfo.nodeId = [1] ∧
    parseClusterNodes " 1:127.0.0.1:21001" = .ok [⟨1, "127.0.0.1:21001"⟩] ∧
    enforceConsensusMode { cluster := " 1:127.0.0.1:21001" } [⟨1, "127.0.0.1:21001"⟩] = .ok () ∧
    metadataNodes " 1:127.0.0.1:21001" none (fun _ => {}) = [] := by decide +kernel

end ColdStore
