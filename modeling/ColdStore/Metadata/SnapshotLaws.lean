import ColdStore.Metadata.Snapshot

/-! What is written for a catalogue reads back as that catalogue, up to the limits of the reader. -/

namespace ColdStore

open Rust

variable {M : Type}

namespace Codec

/-- Every message of a section reads back from what is written for it. -/
def RoundTrips (codec : Codec M) (messages : List M) : Prop :=
  ∀ message ∈ messages, codec.decode (codec.encodeToVec message) = .ok message

/-- The numbers written for a section fit the 64 bits they are written in. -/
def Fits (codec : Codec M) (messages : List M) : Prop :=
  messages.length < 2 ^ 64 ∧ ∀ message ∈ messages, (codec.encodeToVec message).length < 2 ^ 64

/-- No message of a section is longer than the reader accepts. -/
def Short (codec : Codec M) (messages : List M) : Prop :=
  ∀ message ∈ messages, (codec.encodeToVec message).length ≤ maxSnapshotMessageBytes

/-- A section keeps both limits of the reader. -/
def WithinLimits (codec : Codec M) (messages : List M) : Prop :=
  messages.length ≤ maxSnapshotMessagesPerSection ∧ codec.Short messages

end Codec

/-- A property holds of each of the nine sections written for a state. -/
def MessageCodecs.All (codecs : MessageCodecs) (property : {M : Type} → Codec M → List M → Prop)
    (s : MetadataState) : Prop := property codecs.objectMetadata s.objects.values
    ∧ property codecs.bucketInfo s.buckets.values
    ∧ property codecs.archiveBundle s.archiveBundles.values
    ∧ property codecs.archiveTask s.archiveTasks.values
    ∧ property codecs.recallTask s.recallTasks.values
    ∧ property codecs.tapeInfo s.tapes.values
    ∧ property codecs.schedulerWorkerInfo s.schedulerWorkers.values
    ∧ property codecs.cacheWorkerInfo s.cacheWorkers.values
    ∧ property codecs.tapeWorkerInfo s.tapeWorkers.values

/-- Eight octets written for a number that fits are read back, whatever follows them. -/
theorem readU64_toLeBytes {value : Nat} (fits : value < 2 ^ 64) (rest : Bytes) :
    readU64 (toLeBytes 8 value ++ rest) = .ok (value, rest) := by
  have width := toLeBytes_length 8 value
  have long : 8 ≤ (toLeBytes 8 value ++ rest).length := by simp
  have taken : (toLeBytes 8 value ++ rest).take 8 = toLeBytes 8 value := by
    rw [List.take_append_of_le_length (by omega), List.take_of_length_le (by omega)]
  have dropped : (toLeBytes 8 value ++ rest).drop 8 = rest := by
    rw [List.drop_append_of_le_length (by omega), List.drop_of_length_le (by omega),
      List.nil_append]
  simp only [readU64, ensure, long, decide_true, if_true, taken, dropped,
    fromLeBytes_toLeBytes 8 value (by omega), bind, Except.bind, pure, Except.pure]

variable {codec : Codec M} {messages : List M}

/-- Reading back the messages of a section succeeds exactly when none of them is too long. -/
theorem readCounted_frames (roundTrips : codec.RoundTrips messages)
    (fits : ∀ message ∈ messages, (codec.encodeToVec message).length < 2 ^ 64) (rest : Bytes)
    (result : List M × Bytes) :
    readCounted codec messages.length ((messages.map codec.encodeToVec).flatMap frame ++ rest)
        = .ok result ↔ codec.Short messages ∧ result = (messages, rest) := by
  -- Each step consumes one frame, so the induction follows the list of messages.
  induction messages generalizing result with
  | nil => simp [readCounted, Codec.Short, Pure.pure, Except.pure, eq_comm]
  | cons message messages ih =>
    have own := roundTrips message (by simp)
    have small := fits message (by simp)
    have later := ih (fun other mem => roundTrips other (List.mem_cons_of_mem _ mem))
      (fun other mem => fits other (List.mem_cons_of_mem _ mem))
    have opened : (((message :: messages).map codec.encodeToVec).flatMap frame ++ rest)
        = toLeBytes 8 (codec.encodeToVec message).length ++ (codec.encodeToVec message
          ++ ((messages.map codec.encodeToVec).flatMap frame ++ rest)) := by
      simp [frame]
    rw [opened]
    simp only [List.length_cons, readCounted, readU64_toLeBytes small, Rust.bind_eq_ok,
      Except.ok.injEq, Prod.exists, Prod.mk.injEq, ensure_eq_ok, decide_eq_true_eq]
    constructor
    · rintro ⟨_, _, ⟨rfl, rfl⟩, _, short, _, _, decoded, found, read, tail, counted, made⟩
      simp only [List.take_left, List.drop_left] at found counted
      obtain ⟨rest_short, same⟩ := (later _).mp counted
      cases same
      rw [own] at found
      cases found
      cases made
      exact ⟨by simpa [Codec.Short] using ⟨short, rest_short⟩, rfl⟩
    · rintro ⟨short, rfl⟩
      refine ⟨_, _, ⟨rfl, rfl⟩, (), short message (by simp), (), by simp, message, ?_, messages,
        rest, ?_, rfl⟩
      · simpa using own
      · rw [List.drop_left]
        exact (later _).mpr ⟨fun other mem => short other (List.mem_cons_of_mem _ mem), rfl⟩

/-- A section reads back exactly when it keeps the limits, and then as what was written. -/
theorem readMessages_writeMessages (roundTrips : codec.RoundTrips messages)
    (fits : codec.Fits messages) (rest : Bytes) (result : List M × Bytes) :
    readMessages codec (writeMessages codec messages ++ rest) = .ok result ↔
      codec.WithinLimits messages ∧ result = (messages, rest) := by
  -- The length is read back first, and the limit on it is checked before any message is read.
  have count : readU64 (writeMessages codec messages ++ rest)
      = .ok (messages.length, (messages.map codec.encodeToVec).flatMap frame ++ rest) := by
    simp only [writeMessages, List.append_assoc, List.length_map]
    exact readU64_toLeBytes fits.1 _
  simp only [readMessages, count, Rust.bind_eq_ok, Except.ok.injEq, Prod.exists, Prod.mk.injEq,
    ensure_eq_ok, decide_eq_true_eq, Codec.WithinLimits]
  constructor
  · rintro ⟨_, _, ⟨rfl, rfl⟩, _, few, read⟩
    obtain ⟨short, same⟩ := (readCounted_frames roundTrips fits.2 rest result).mp read
    exact ⟨⟨few, short⟩, same⟩
  · rintro ⟨⟨few, short⟩, same⟩
    exact ⟨_, _, ⟨rfl, rfl⟩, (), few, (readCounted_frames roundTrips fits.2 rest result).mpr
      ⟨short, same⟩⟩

/-- What follows a section that is read back goes on with what was written. -/
theorem readMessages_bind {R : Type} {next : List M × Bytes → Except String R}
    (roundTrips : codec.RoundTrips messages) (fits : codec.Fits messages) (rest : Bytes)
    (result : R) :
    (readMessages codec (writeMessages codec messages ++ rest) >>= next) = .ok result ↔
      codec.WithinLimits messages ∧ next (messages, rest) = .ok result := by
  simp only [Rust.bind_eq_ok, readMessages_writeMessages roundTrips fits]
  constructor
  · rintro ⟨_, ⟨within, rfl⟩, later⟩
    exact ⟨within, later⟩
  · rintro ⟨within, later⟩
    exact ⟨_, ⟨within, rfl⟩, later⟩

variable {rest : Bytes}

/-- A section that reads back has no more messages than the reader accepts. -/
theorem readMessages_few (fits : messages.length < 2 ^ 64) {result : List M × Bytes}
    (read : readMessages codec (writeMessages codec messages ++ rest) = .ok result) :
    messages.length ≤ maxSnapshotMessagesPerSection := by
  simp only [readMessages, writeMessages, List.append_assoc, List.length_map,
    readU64_toLeBytes fits, Rust.bind_eq_ok, Except.ok.injEq, Prod.exists, Prod.mk.injEq,
    ensure_eq_ok, decide_eq_true_eq] at read
  obtain ⟨_, _, ⟨rfl, _⟩, _, few, _⟩ := read
  exact few

/-- An empty section is read back as one, whatever its codec. -/
theorem readMessages_empty (codec : Codec M) (rest : Bytes) :
    readMessages codec (writeMessages codec [] ++ rest) = .ok ([], rest) :=
  (readMessages_writeMessages (by simp [Codec.RoundTrips]) (by simp [Codec.Fits]) _ _).mpr
    ⟨by simp [Codec.WithinLimits, Codec.Short], rfl⟩

/-- The state whose nine maps are rebuilt from the records of another. -/
def MetadataState.recollected (s : MetadataState) : MetadataState where
  objects := collectBy ObjectMetadata.objectKey s.objects.values
  buckets := collectBy BucketInfo.name s.buckets.values
  archiveBundles := collectBy ArchiveBundle.id s.archiveBundles.values
  archiveTasks := collectBy ArchiveTask.id s.archiveTasks.values
  recallTasks := collectBy RecallTask.id s.recallTasks.values
  tapes := collectBy TapeInfo.id s.tapes.values
  schedulerWorkers := collectBy SchedulerWorkerInfo.nodeId s.schedulerWorkers.values
  cacheWorkers := collectBy CacheWorkerInfo.nodeId s.cacheWorkers.values
  tapeWorkers := collectBy TapeWorkerInfo.nodeId s.tapeWorkers.values

variable {s : MetadataState}

/-- Rebuilding a state whose keys agree with its records changes iteration orders only. -/
theorem MetadataState.recollected_equiv (agree : s.KeysAgree) : s.recollected ≈ s where
  objects := s.objects.collect_values agree.objects
  buckets := s.buckets.collect_values agree.buckets
  archiveBundles := s.archiveBundles.collect_values agree.archiveBundles
  archiveTasks := s.archiveTasks.collect_values agree.archiveTasks
  recallTasks := s.recallTasks.collect_values agree.recallTasks
  tapes := s.tapes.collect_values agree.tapes
  schedulerWorkers := s.schedulerWorkers.collect_values agree.schedulerWorkers
  cacheWorkers := s.cacheWorkers.collect_values agree.cacheWorkers
  tapeWorkers := s.tapeWorkers.collect_values agree.tapeWorkers

/-- The magic written first is recognised and skipped. -/
private theorem magic_skipped (rest : Bytes) :
    snapshotMagic.isPrefixOf (snapshotMagic ++ rest) = true
      ∧ (snapshotMagic ++ rest).drop snapshotMagic.length = rest := ⟨by simp, List.drop_left⟩

variable {codecs : MessageCodecs}

/-- Reading a written snapshot back succeeds exactly within the limits, with the rebuilt state. -/
theorem decodeSnapshot_eq_ok (roundTrips : codecs.All Codec.RoundTrips s)
    (fits : codecs.All Codec.Fits s) (decoded : MetadataState) :
    decodeSnapshot codecs (encodeSnapshot codecs s) = .ok decoded ↔
      codecs.All Codec.WithinLimits s ∧ decoded = s.recollected := by
  obtain ⟨trip1, trip2, trip3, trip4, trip5, trip6, trip7, trip8, trip9⟩ := roundTrips
  obtain ⟨fit1, fit2, fit3, fit4, fit5, fit6, fit7, fit8, fit9⟩ := fits
  have passes (text : String) : ensure true text = pure () := rfl
  -- The last section is followed by nothing, which the reader insists on.
  rw [encodeSnapshot, ← List.append_nil (writeMessages codecs.tapeWorkerInfo _)]
  simp only [decodeSnapshot, magic_skipped, passes, pure_bind, List.isEmpty_nil,
    readMessages_bind trip1 fit1, readMessages_bind trip2 fit2, readMessages_bind trip3 fit3,
    readMessages_bind trip4 fit4, readMessages_bind trip5 fit5, readMessages_bind trip6 fit6,
    readMessages_bind trip7 fit7, readMessages_bind trip8 fit8, readMessages_bind trip9 fit9]
  simp only [pure, Except.pure, Except.ok.injEq, MessageCodecs.All, and_assoc, eq_comm,
    MetadataState.recollected]

/-! Whatever a snapshot holds, what is read from it is within the limit and under its identities. -/

/-- No section has more messages than the reader accepts. -/
def MessageCodecs.Few (codecs : MessageCodecs) (s : MetadataState) : Prop :=
  codecs.All (fun _ messages => messages.length ≤ maxSnapshotMessagesPerSection) s

theorem readCounted_length {count : Nat} {cursor : Bytes}
    (read : readCounted codec count cursor = .ok (messages, rest)) : messages.length = count := by
  induction count generalizing cursor messages with
  | zero =>
    cases read
    rfl
  | succ count ih =>
    simp only [readCounted, Rust.bind_eq_ok, Prod.exists] at read
    obtain ⟨_, _, _, _, _, _, _, _, _, _, _, later, made⟩ := read
    cases made
    rw [List.length_cons, ih later]

/-- A map rebuilt from a section that was read keeps the limit on the messages of a section. -/
theorem collectBy_few {κ : Type} [DecidableEq κ] (identity : M → κ) {cursor : Bytes}
    (read : readMessages codec cursor = .ok (messages, rest)) :
    (collectBy identity messages).values.length ≤ maxSnapshotMessagesPerSection := by
  simp only [readMessages, Rust.bind_eq_ok, Prod.exists, ensure_eq_ok, decide_eq_true_eq] at read
  obtain ⟨count, _, _, _, few, counted⟩ := read
  -- Collecting by key can only lose messages.
  have bound := HashMap.len_collect_le (messages.map fun message => (identity message, message))
  simp only [List.length_map, readCounted_length counted, HashMap.len] at bound
  simpa [collectBy, HashMap.values] using bound.trans few

/-- A state that was read has few records in each section, each under its identity. -/
theorem decodeSnapshot_read {bytes : Bytes} (read : decodeSnapshot codecs bytes = .ok s) :
    codecs.Few s ∧ s.KeysAgree := by
  simp only [decodeSnapshot, Rust.bind_eq_ok, Prod.exists] at read
  obtain ⟨_, _, _, _, read1, _, _, read2, _, _, read3, _, _, read4, _, _, read5, _, _, read6,
    _, _, read7, _, _, read8, _, _, read9, _, _, made⟩ := read
  cases made
  refine ⟨⟨collectBy_few _ read1, collectBy_few _ read2, collectBy_few _ read3,
    collectBy_few _ read4, collectBy_few _ read5, collectBy_few _ read6, collectBy_few _ read7,
    collectBy_few _ read8, collectBy_few _ read9⟩, ?_⟩
  constructor <;> exact HashMap.keyed_collect _ _

/-- What does not depend on the order of a section is the same for states with equal maps. -/
theorem MessageCodecs.all_of_equiv {property : {M : Type} → Codec M → List M → Prop}
    {left right : MetadataState}
    (orderless : ∀ {M : Type} (codec : Codec M) (first second : List M),
      first.Perm second → property codec first → property codec second) (same : left ≈ right)
    (holds : codecs.All property left) : codecs.All property right := by
  -- Equivalent states list the same records of each kind in another order.
  obtain ⟨h1, h2, h3, h4, h5, h6, h7, h8, h9⟩ := holds
  exact ⟨orderless _ _ _ (HashMap.values_perm same.objects) h1,
    orderless _ _ _ (HashMap.values_perm same.buckets) h2,
    orderless _ _ _ (HashMap.values_perm same.archiveBundles) h3,
    orderless _ _ _ (HashMap.values_perm same.archiveTasks) h4,
    orderless _ _ _ (HashMap.values_perm same.recallTasks) h5,
    orderless _ _ _ (HashMap.values_perm same.tapes) h6,
    orderless _ _ _ (HashMap.values_perm same.schedulerWorkers) h7,
    orderless _ _ _ (HashMap.values_perm same.cacheWorkers) h8,
    orderless _ _ _ (HashMap.values_perm same.tapeWorkers) h9⟩

/-- A property of every section follows from two that imply it section by section. -/
theorem MessageCodecs.all_of_and {first second both : {M : Type} → Codec M → List M → Prop}
    (implies : ∀ {M : Type} (codec : Codec M) (messages : List M),
      first codec messages → second codec messages → both codec messages)
    (left : codecs.All first s) (right : codecs.All second s) : codecs.All both s := by
  obtain ⟨l1, l2, l3, l4, l5, l6, l7, l8, l9⟩ := left
  obtain ⟨r1, r2, r3, r4, r5, r6, r7, r8, r9⟩ := right
  exact ⟨implies _ _ l1 r1, implies _ _ l2 r2, implies _ _ l3 r3, implies _ _ l4 r4,
    implies _ _ l5 r5, implies _ _ l6 r6, implies _ _ l7 r7, implies _ _ l8 r8, implies _ _ l9 r9⟩

end ColdStore
