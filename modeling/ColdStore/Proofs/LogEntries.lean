import ColdStore.Metadata.Propose
import ColdStore.Metadata.RaftLog
import ColdStore.Process.Trace
import ColdStore.Proofs.Snapshot

/-!
The log entries of callers that propose at the same time.

The index of a proposal is counted before anything is locked, so two callers may get the same.
-/

namespace ColdStore.Proposing

open Rust Process

/-! What callers have counted and stored so far. -/

/-- An access that counted the log entries. -/
def counts (number : Nat) : Exchange Access Access.Value := ⟨.logEntryCount, number⟩

/-- An access that stored a log entry. -/
def stores (index : Nat) (cmd : MetadataCommand) : Exchange Access Access.Value :=
  ⟨.appendLogEntry index cmd, .ok ()⟩

@[simp] theorem stores_inj {index other : Nat} {cmd logged : MetadataCommand} :
    stores index cmd = stores other logged ↔ index = other ∧ cmd = logged := by
  simp [stores]

/-- A caller stores one entry, behind as many as it has counted. -/
def discipline (_ : MetadataCommand) : Discipline Access Access.Value where
  comes _ _ := True
  makes past what := match what with
    | .appendLogEntry index _ => (∃ number, index = number + 1 ∧ counts number ∈ past) ∧
        ∀ other cmd, stores other cmd ∉ past
    | _ => True

/-- A call that succeeds has stored its command under the index it returns, and nothing else. -/
def returns (cmd : MetadataCommand) :
    Except String Nat → List (Exchange Access Access.Value) → Prop
  | .ok index, past =>
    ∀ other logged, stores other logged ∈ past ↔ other = index ∧ logged = cmd
  | .error _, _ => True

theorem propose_follows (platform : Platform) (cmd : MetadataCommand) :
    (propose platform cmd).Follows (discipline cmd) (returns cmd) [] := by
  -- Whatever is answered, the caller goes on or gives up.
  refine ⟨trivial, fun number _ => ⟨⟨⟨number, rfl, List.mem_singleton.mpr rfl⟩, ?_⟩, ?_⟩⟩
  · intro other logged mem
    simp [stores] at mem
  intro logged _
  cases logged with
  | error error => trivial
  | ok _ =>
    refine ⟨trivial, fun _ _ => ⟨trivial, fun applied _ => ?_⟩⟩
    cases applied with
    | error status => exact ⟨trivial, fun _ _ => trivial⟩
    | ok _ =>
      refine ⟨trivial, fun saved _ => ⟨trivial, fun _ _ => ?_⟩⟩
      cases saved with
      | error error => trivial
      | ok _ =>
        -- Of the six accesses the second one stored the entry.
        intro other logged
        simp [stores]

/-- What callers have asked for, in this order. -/
abbrev Accesses := Trace Access Access.Value MetadataCommand

/-- The caller at a position has stored an entry. -/
abbrev Stored (trace : Accesses) (spot index : Nat) (cmd : MetadataCommand) : Prop :=
  stores index cmd ∈ ownPart spot trace

section

variable [KeyValueStore]

/-- The caller at a position proposed a command and was told that it is logged under an index. -/
def Succeeded (callers : Callers) (spot : Nat) (cmd : MetadataCommand) (index : Nat) :
    Prop := ∃ thread, callers.threads[spot]? = some thread ∧ thread.request = cmd ∧
    thread.program = .done (.ok index)

/-- Every successful call has its entry under its index, and no two have the same index. -/
structure EntriesKept (platform : Platform) (callers : Callers) : Prop where
  stored : ∀ spot cmd index, Succeeded callers spot cmd index →
    callers.world.node.storage.get (logKey index) = some (logRecord platform cmd)
  distinct : ∀ first second cmd other index, Succeeded callers first cmd index →
    Succeeded callers second other index → first = second

/--
An entry that is stored comes behind the last one of the log.

The caller counted the entries before, so none has been added to the log since.
-/
def appendsNext (platform : Platform) (surroundings : Nat → Surroundings) (callers : Callers)
    (event : Event MetadataCommand) : Bool :=
  match callers.entryAt (machine platform surroundings) event with
  | some ⟨_, _, ⟨.appendLogEntry index _, .ok _⟩⟩ =>
    decide (callers.world.node.storage.logEntryCount < index)
  | _ => true

/-- The log and what callers have counted and stored agree. -/
structure Logged (platform : Platform) (initial : Nat) (trace : Accesses) (w : World) : Prop where
  numbered : w.node.storage.Numbered
  grown : initial ≤ w.node.storage.logEntryCount
  bounded : w.node.storage.logEntryCount ≤ initial + trace.length
  /-- What was counted can have become more. -/
  counted : ∀ spot number, counts number ∈ ownPart spot trace →
    initial ≤ number ∧ number ≤ w.node.storage.logEntryCount
  /-- Somebody has stored each of the new entries. -/
  covered : ∀ index, initial < index → index ≤ w.node.storage.logEntryCount →
    ∃ spot cmd, Stored trace spot index cmd
  reached : ∀ spot index cmd, Stored trace spot index cmd → index ≤ w.node.storage.logEntryCount
  /-- An entry is what its caller stored, unless others have stored theirs under the same index. -/
  stored : ∀ spot index cmd, Stored trace spot index cmd →
    (∀ other logged, Stored trace other index logged → other = spot) →
      w.node.storage.get (logKey index) = some (logRecord platform cmd)

section

variable {platform : Platform} {initial : Nat} {trace : Accesses} {w later : World}
  {entry : Entry Access Access.Value MetadataCommand} {spot number : Nat}
  {req cmd : MetadataCommand}

theorem Logged.start {node : LocalSingleNodeMetadataRaft} (numbered : node.storage.Numbered) :
    Logged platform node.storage.logEntryCount [] { node } where
  numbered := numbered
  grown := Nat.le_refl _
  bounded := Nat.le_refl _
  counted spot number mem := (List.not_mem_nil mem).elim
  covered index above within := by
    exact absurd above (Nat.not_lt_of_le within)
  reached spot index cmd mem := (List.not_mem_nil mem).elim
  stored spot index cmd mem := (List.not_mem_nil mem).elim

omit [KeyValueStore] in
/-- An entry that is stored is the new one or an old one. -/
theorem stored_concat_iff {other index : Nat} {another : MetadataCommand} :
    Stored (trace ++ [⟨spot, req, stores number cmd⟩]) other index another ↔
      Stored trace other index another ∨ spot = other ∧ number = index ∧ cmd = another := by
  rw [Stored, mem_ownPart_concat, stores_inj]

omit [KeyValueStore] in
theorem stored_quiet_iff (quiet : ∀ index cmd, entry.exchange ≠ stores index cmd)
    {spot index : Nat} {cmd : MetadataCommand} :
    Stored (trace ++ [entry]) spot index cmd ↔ Stored trace spot index cmd := by
  rw [Stored, mem_ownPart_concat]
  exact ⟨fun mem => mem.resolve_right fun new => quiet index cmd new.2, .inl⟩

/-- An access that leaves the log alone, and counts it right if it does. -/
theorem Logged.quiet (logged : Logged platform initial trace w)
    (same : RocksDb.SameLog w.node.storage later.node.storage)
    (quiet : ∀ index cmd, entry.exchange ≠ stores index cmd := by rintro _ _ ⟨⟩)
    (right : ∀ number, entry.exchange = counts number →
      number = w.node.storage.logEntryCount := by rintro _ ⟨⟩) :
    Logged platform initial (trace ++ [entry]) later where
  numbered := same.numbered logged.numbered
  grown := by rw [same.count]; exact logged.grown
  bounded := by
    have before := logged.bounded
    rw [same.count, List.length_append]
    omega
  counted spot number mem := by
    rw [same.count]
    rcases mem_ownPart_concat.mp mem with old | ⟨_, new⟩
    · exact logged.counted spot number old
    · rw [right number new]
      exact ⟨logged.grown, Nat.le_refl _⟩
  covered index above within := by
    obtain ⟨spot, cmd, mem⟩ := logged.covered index above (same.count ▸ within)
    exact ⟨spot, cmd, (stored_quiet_iff quiet).mpr mem⟩
  reached spot index cmd mem := by
    rw [same.count]
    exact logged.reached spot index cmd ((stored_quiet_iff quiet).mp mem)
  stored spot index cmd mem alone := by
    rw [same.stored]
    refine logged.stored spot index cmd ((stored_quiet_iff quiet).mp mem) ?_
    intro other another present
    exact alone other another ((stored_quiet_iff quiet).mpr present)

/-- The first entry of a caller, stored behind as many as it has counted. -/
theorem Logged.store (logged : Logged platform initial trace w)
    (short : initial + trace.length + 1 < 2 ^ 64) (counted : counts number ∈ ownPart spot trace)
    (first : ∀ other logged, ¬ Stored trace spot other logged)
    (written : later.node.storage = w.node.storage.appendLogEntry platform (number + 1) 1 cmd) :
    Logged platform initial (trace ++ [⟨spot, req, stores (number + 1) cmd⟩]) later := by
  obtain ⟨above, within⟩ := logged.counted spot number counted
  have bounded := logged.bounded
  have fits : number + 1 < 2 ^ 64 := by omega
  have count : later.node.storage.logEntryCount
      = max w.node.storage.logEntryCount (number + 1) := by
    rw [written]
    exact logged.numbered.logEntryCount_put fits (by omega) (by omega) _
  refine ⟨?_, ?_, ?_, ?_, ?_, ?_, ?_⟩
  · rw [written]
    exact logged.numbered.put fits (by omega) (by omega) _
  · have grown := logged.grown
    omega
  · rw [count, List.length_append, List.length_singleton]
    omega
  · intro other counted mem
    rcases mem_ownPart_concat.mp mem with old | ⟨_, new⟩
    · have before := logged.counted other counted old
      omega
    · cases new
  · intro index above within
    by_cases old : index ≤ w.node.storage.logEntryCount
    · obtain ⟨other, another, mem⟩ := logged.covered index above old
      exact ⟨other, another, stored_concat_iff.mpr (.inl mem)⟩
    · exact ⟨spot, cmd, stored_concat_iff.mpr (.inr ⟨rfl, by omega, rfl⟩)⟩
  · intro other index another mem
    rcases stored_concat_iff.mp mem with old | ⟨_, rfl, _⟩
    · have before := logged.reached other index another old
      omega
    · omega
  · intro other index another mem alone
    rw [written, RocksDb.appendLogEntry, RocksDb.get_put]
    rcases stored_concat_iff.mp mem with old | ⟨rfl, rfl, rfl⟩
    · by_cases same : index = number + 1
      · -- The entry just stored is under this index too, and its caller had stored none before.
        obtain rfl := alone spot cmd (stored_concat_iff.mpr (.inr ⟨rfl, same.symm, rfl⟩))
        exact absurd old (first _ _)
      · have before := logged.reached other index another old
        have apart : logKey index ≠ logKey (number + 1) := fun equal =>
          same (logKey_inj (by omega) fits equal)
        rw [if_neg apart]
        refine logged.stored other index another old fun third last present => ?_
        exact alone third last (stored_concat_iff.mpr (.inl present))
    · exact if_pos rfl

/-- Every access of a caller that keeps to the rules keeps the agreement. -/
theorem Logged.serve (surroundings : Nat → Surroundings)
    (logged : Logged platform initial trace w) (short : initial + trace.length + 1 < 2 ^ 64)
    {what : Access} (makes : (discipline req).makes (ownPart spot trace) what) :
    Logged platform initial
      (trace ++ [⟨spot, req, ⟨what, ((machine platform surroundings).serve what w).1⟩⟩])
      ((machine platform surroundings).serve what w).2 := by
  -- Most accesses neither count nor store anything.
  cases what with
  | logEntryCount =>
    exact logged.quiet ⟨rfl, fun _ => rfl⟩ (by rintro _ _ ⟨⟩) (by rintro _ ⟨⟩; rfl)
  | appendLogEntry index cmd =>
    obtain ⟨⟨number, rfl, counted⟩, first⟩ := makes
    cases fault : (surroundings w.tick).faults.appendLog with
    | some error =>
      -- A write that fails leaves the store as it was.
      simp only [machine, Access.serve, fault, failing]
      exact logged.quiet ⟨rfl, fun _ => rfl⟩
    | none =>
      simp only [machine, Access.serve, fault, failing]
      exact logged.store short counted first rfl
  | saveStateMachineSnapshot =>
    cases fault : (surroundings w.tick).faults.saveSnapshot with
    | some error =>
      simp only [machine, Access.serve, fault, failing]
      exact logged.quiet ⟨rfl, fun _ => rfl⟩
    | none =>
      simp only [machine, Access.serve, fault, failing]
      exact logged.quiet (RocksDb.sameLog_saveStateMachineSnapshot platform _)
  | lockStateMachine | apply _ | unlockStateMachine =>
    exact logged.quiet ⟨rfl, fun _ => rfl⟩

end

section

variable {platform : Platform} {surroundings : Nat → Surroundings} {initial limit : Nat}

/-- Callers keep to the rules, and their trace agrees with the log. -/
abbrev Orderly (platform : Platform) (initial : Nat)
    (trace : Accesses) (callers : Callers) : Prop :=
  Disciplined discipline (Logged platform initial) returns trace callers

/-- One event keeps callers orderly while the log is short enough to be numbered. -/
theorem Orderly.next (short : initial + limit < 2 ^ 64) (trace : Accesses) (callers : Callers)
    (event : Event MetadataCommand) (orderly : Orderly platform initial trace callers)
    (within : trace.length < limit) :
    Orderly platform initial
      (trace ++ (callers.entryAt (machine platform surroundings) event).toList)
      (callers.next (machine platform surroundings) (propose platform) event) := by
  refine Disciplined.next orderly (fun cmd _ => propose_follows platform cmd) ?_
  intro spot _ req what next _ _ _ makes
  exact ⟨orderly.agrees.serve surroundings (by omega) makes, trivial⟩

omit [KeyValueStore] in
/-- No two callers have stored an entry under the same index. -/
def Apart (trace : Accesses) : Prop :=
  ∀ first second index cmd other, Stored trace first index cmd →
    Stored trace second index other → first = second

omit [KeyValueStore] in
theorem Apart.before (trace more : Accesses) (apart : Apart (trace ++ more)) : Apart trace := by
  have longer : ∀ spot index cmd, Stored trace spot index cmd →
      Stored (trace ++ more) spot index cmd := by
    intro spot index cmd mem
    rw [Stored, ownPart, List.filter_append, List.map_append]
    exact List.mem_append_left _ mem
  intro first second index cmd other one two
  exact apart first second index cmd other (longer _ _ _ one) (longer _ _ _ two)

section

variable {trace : Accesses} {entry : Entry Access Access.Value MetadataCommand}

omit [KeyValueStore] in
theorem Apart.quiet (apart : Apart trace) (quiet : ∀ index cmd, entry.exchange ≠ stores index cmd) :
    Apart (trace ++ [entry]) := by
  intro first second index cmd other one two
  rw [stored_quiet_iff quiet] at one two
  exact apart first second index cmd other one two

omit [KeyValueStore] in
/-- The first entry of a caller leaves callers apart if nobody has stored one under its index. -/
theorem Apart.concat_iff (apart : Apart trace) {spot index : Nat}
    {req cmd : MetadataCommand} (first : ∀ other logged, ¬ Stored trace spot other logged) :
    Apart (trace ++ [⟨spot, req, stores index cmd⟩]) ↔
      ∀ other logged, ¬ Stored trace other index logged := by
  constructor
  · intro still other logged mem
    -- Whoever has stored one would be the caller itself, which has not.
    obtain rfl := still other spot index logged cmd (stored_concat_iff.mpr (.inl mem))
      (stored_concat_iff.mpr (.inr ⟨rfl, rfl, rfl⟩))
    exact first index logged mem
  · intro free one two number logged another left right
    rcases stored_concat_iff.mp left with old | ⟨here, same, _⟩ <;>
      rcases stored_concat_iff.mp right with alsoOld | ⟨alsoHere, alsoSame, _⟩
    · exact apart one two number logged another old alsoOld
    · exact absurd (alsoSame ▸ old) (free one logged)
    · exact absurd (same ▸ alsoOld) (free two another)
    · exact here.symm.trans alsoHere

/-- The log has every new index up to its length, and nothing behind. -/
theorem Logged.free_iff {w : World} (logged : Logged platform initial trace w) {index : Nat}
    (above : initial < index) :
    w.node.storage.logEntryCount < index ↔ ∀ other cmd, ¬ Stored trace other index cmd := by
  constructor
  · intro behind other cmd mem
    exact absurd (logged.reached other index cmd mem) (Nat.not_le_of_lt behind)
  · intro free
    by_contra within
    obtain ⟨spot, cmd, mem⟩ := logged.covered index above (Nat.le_of_not_lt within)
    exact free spot cmd mem

end

/-- An entry behind the last one is the first under its index, and any other is not. -/
theorem Orderly.appendsNext_iff (trace : Accesses)
    (callers : Callers) (event : Event MetadataCommand)
    (orderly : Orderly platform initial trace callers) (apart : Apart trace) :
    appendsNext platform surroundings callers event = true ↔
      Apart (trace ++ (callers.entryAt (machine platform surroundings) event).toList) := by
  cases event with
  | spawn cmd =>
    simp only [appendsNext, Config.entryAt, Option.toList_none, List.append_nil, true_iff]
    exact apart
  | step spot =>
    rcases callers.entry_cases (machine platform surroundings) spot with
      ⟨req, what, next, found, recorded, _, _⟩ | ⟨silent, _⟩
    · have makes := (orderly.follows spot _ found).1
      rw [appendsNext, recorded, Option.toList_some]
      -- Only an entry that was really stored is looked at.
      generalize ((machine platform surroundings).serve what callers.world).1 = answer
      cases what with
      | appendLogEntry index cmd =>
        obtain ⟨⟨number, rfl, counted⟩, first⟩ := makes
        cases answer with
        | error error =>
          exact iff_of_true rfl (apart.quiet fun _ _ same => by cases same)
        | ok _ =>
          have above := (orderly.agrees.counted spot number counted).1
          rw [decide_eq_true_iff, orderly.agrees.free_iff (Nat.lt_succ_of_le above)]
          exact (apart.concat_iff first).symm
      | logEntryCount | lockStateMachine | apply _ | saveStateMachineSnapshot
      | unlockStateMachine =>
        exact iff_of_true rfl (apart.quiet fun _ _ same => by cases same)
    · rw [appendsNext, silent, Option.toList_none, List.append_nil]
      exact iff_of_true rfl apart

variable {trace : Accesses}

/-- Callers that stored entries apart have kept them. -/
theorem Orderly.kept {callers : Callers} (orderly : Orderly platform initial trace callers)
    (apart : Apart trace) : EntriesKept platform callers := by
  have own : ∀ spot cmd index, Succeeded callers spot cmd index →
      Stored trace spot index cmd := by
    intro spot cmd index succeeded
    obtain ⟨thread, found, rfl, done⟩ := succeeded
    have follows := orderly.follows spot thread found
    rw [done] at follows
    exact (follows index thread.request).mpr ⟨rfl, rfl⟩
  refine ⟨fun spot cmd index succeeded => ?_, ?_⟩
  · have mem := own spot cmd index succeeded
    refine orderly.agrees.stored spot index cmd mem fun other logged present => ?_
    exact apart other spot index logged cmd present mem
  · intro first second cmd other index one two
    exact apart first second index cmd other (own _ _ _ one) (own _ _ _ two)

/-- Callers that have all succeeded and kept their entries stored them apart. -/
theorem Orderly.apart {callers : Callers} (orderly : Orderly platform initial trace callers)
    (succeeded : ∀ thread ∈ callers.threads, ∃ index, thread.program = .done (.ok index))
    (kept : EntriesKept platform callers) : Apart trace := by
  -- Whoever stored an entry is told the index it is stored under.
  have told : ∀ spot index cmd, Stored trace spot index cmd →
      Succeeded callers spot cmd index := by
    intro spot index cmd mem
    obtain ⟨entry, recorded, rfl, _⟩ := (mem_ownPart _ _).mp mem
    obtain ⟨thread, found, _⟩ := orderly.made entry recorded
    obtain ⟨returned, done⟩ := succeeded thread (List.mem_of_getElem? found)
    have follows := orderly.follows entry.spot thread found
    rw [done] at follows
    obtain ⟨rfl, rfl⟩ := (follows index cmd).mp mem
    exact ⟨thread, found, rfl, done⟩
  intro first second index cmd other one two
  exact kept.distinct first second cmd other index (told _ _ _ one) (told _ _ _ two)

end

/-- Every run of callers is orderly, and single entries tell whether they are stored apart. -/
theorem orderly_after (platform : Platform) (surroundings : Nat → Surroundings)
    {node : LocalSingleNodeMetadataRaft} {events : List (Event MetadataCommand)}
    (numbered : node.storage.Numbered)
    (short : node.storage.logEntryCount + events.length < 2 ^ 64) :
    ∃ trace, Orderly platform node.storage.logEntryCount trace
        (after platform surroundings node events) ∧
      ((atRest node).Admits (machine platform surroundings) (propose platform)
        (fun callers event => appendsNext platform surroundings callers event = true) events ↔
          Apart trace) := by
  have start : Orderly platform node.storage.logEntryCount [] (atRest node) :=
    Disciplined.initial (Logged.start numbered)
  -- The trace grows by one entry at most with each event, so it stays short.
  have within := Config.observes_length (machine platform surroundings) (propose platform) events
    [] (atRest node) (Nat.le_of_eq (Nat.zero_add events.length))
  refine ⟨(atRest node).trace (machine platform surroundings) (propose platform) events, ?_, ?_⟩
  · refine Disciplined.after (fun _ => True) (fun cmd _ => propose_follows platform cmd) ?_
      events [] (atRest node) start within fun _ _ => trivial
    intro trace callers spot logged shorter req what next _ _ _ makes
    exact ⟨logged.serve surroundings (by omega) makes, trivial⟩
  · refine Disciplined.admits_iff Apart.before (Orderly.next short) ?_ events [] (atRest node)
      start within ?_
    · intro trace callers event orderly _ apart
      exact Orderly.appendsNext_iff trace callers event orderly apart
    · intro first second index cmd other mem
      exact (List.not_mem_nil mem).elim

/--
Callers keep their entries if each stores its own before the log has grown behind its count.

Whatever they do, the log has no gaps afterwards. If all of them succeed, there is no other way to
keep the entries.
-/
theorem entries_kept_iff (platform : Platform) (surroundings : Nat → Surroundings)
    (node : LocalSingleNodeMetadataRaft) (events : List (Event MetadataCommand))
    (numbered : node.storage.Numbered)
    (short : node.storage.logEntryCount + events.length < 2 ^ 64) :
    (after platform surroundings node events).world.node.storage.Numbered ∧
    ((atRest node).Admits (machine platform surroundings) (propose platform)
        (fun callers event => appendsNext platform surroundings callers event = true) events →
      EntriesKept platform (after platform surroundings node events)) ∧
    ((∀ thread ∈ (after platform surroundings node events).threads,
        ∃ index, thread.program = .done (.ok index)) →
      EntriesKept platform (after platform surroundings node events) →
        (atRest node).Admits (machine platform surroundings) (propose platform)
          (fun callers event => appendsNext platform surroundings callers event = true) events) := by
  obtain ⟨trace, orderly, told⟩ := orderly_after platform surroundings numbered short
  refine ⟨orderly.agrees.numbered, fun admitted => ?_, fun succeeded kept => ?_⟩
  · exact orderly.kept (told.mp admitted)
  · exact told.mpr (orderly.apart succeeded kept)

end

/-- An empty node, as it is opened over a new store. -/
def emptyNode : LocalSingleNodeMetadataRaft where
  storage := HashMap.empty
  stateMachine := {}

/-- A platform that shows which bucket a command creates. -/
def bucketPlatform : Platform where
  codecs := namedCodecs
  debugCommand
    | .createBucket bucket => ("CreateBucket(BucketInfo \x7b name: \"" ++ bucket.name ++
        "\", created_at: None, owner: None, versioning_enabled: false, object_count: 0, " ++
        "total_size: 0 \x7d)").toList.map fun c => UInt8.ofNat c.toNat
    | _ => []
  displayStatus status := status.message

/-- The accesses of a caller that succeeds. -/
def sixSteps (spot : Nat) : List (Event MetadataCommand) := List.replicate 6 (.step spot)

/-- One caller comes after the other has returned. -/
def inTurn : List (Event MetadataCommand) :=
  .spawn (.createBucket { name := "docs" }) :: sixSteps 0 ++
    .spawn (.createBucket { name := "logs" }) :: sixSteps 1

/-- Proposals that come one after the other both keep their entries. -/
theorem entries_kept_iff_inTurn :
    Succeeded (after bucketPlatform (fun _ => {}) emptyNode inTurn) 0
        (.createBucket { name := "docs" }) 1 ∧
      Succeeded (after bucketPlatform (fun _ => {}) emptyNode inTurn) 1
        (.createBucket { name := "logs" }) 2 ∧
      EntriesKept bucketPlatform (after bucketPlatform (fun _ => {}) emptyNode inTurn) := by
  have numbered : emptyNode.storage.Numbered := RocksDb.numbered_of_absent fun _ _ => rfl
  refine ⟨⟨_, rfl, rfl, rfl⟩, ⟨_, rfl, rfl, rfl⟩, ?_⟩
  refine (entries_kept_iff bucketPlatform (fun _ => {}) emptyNode inTurn numbered ?_).2.1 ?_
  · decide
  · decide +kernel

/-- Both callers count before either has stored an entry. -/
def atOnce : List (Event MetadataCommand) :=
  [.spawn (.createBucket { name := "docs" }), .spawn (.createBucket { name := "logs" }),
    .step 0, .step 1] ++ List.replicate 5 (.step 0) ++ List.replicate 5 (.step 1)

/-- Of two proposals at once both succeed, and one of them has lost its entry. -/
theorem both_under_one_index :
    Succeeded (after bucketPlatform (fun _ => {}) emptyNode atOnce) 0
        (.createBucket { name := "docs" }) 1 ∧
      Succeeded (after bucketPlatform (fun _ => {}) emptyNode atOnce) 1
        (.createBucket { name := "logs" }) 1 ∧
      (after bucketPlatform (fun _ => {}) emptyNode atOnce).world.node.storage.get (logKey 1)
        ≠ some (logRecord bucketPlatform (.createBucket { name := "docs" })) ∧
      ¬ EntriesKept bucketPlatform (after bucketPlatform (fun _ => {}) emptyNode atOnce) := by
  have first : Succeeded (after bucketPlatform (fun _ => {}) emptyNode atOnce) 0
      (.createBucket { name := "docs" }) 1 := ⟨_, rfl, rfl, rfl⟩
  have lost : (after bucketPlatform (fun _ => {}) emptyNode atOnce).world.node.storage.get (logKey 1)
      ≠ some (logRecord bucketPlatform (.createBucket { name := "docs" })) := by
    decide +kernel
  exact ⟨first, ⟨_, rfl, rfl, rfl⟩, lost, fun kept => lost (kept.stored 0 _ 1 first)⟩

end ColdStore.Proposing
