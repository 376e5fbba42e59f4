import ColdStore.Scheduler.Orderly
import ColdStore.Scheduler.Uploads

/-! What concurrent schedulers may rely on, whatever is lost on the way to the services. -/

namespace ColdStore.Scheduler

open Rust Process CacheState MetadataState

section Delivery

variable {α σ : Type} {moment : Moment} {before : σ} {served : Except Status α × σ}

/-- A call leaves what the service leaves, or nothing has happened. -/
theorem delivered_state (moment : Moment) (before : σ) (served : Except Status α × σ) :
    (delivered moment before served).2 = before ∨ (delivered moment before served).2 = served.2 := by
  simp only [delivered]
  split
  · exact Or.inr rfl
  · exact Or.inl rfl
  · exact Or.inr rfl

/-- A success is one of the service. -/
theorem delivered_ok {value : α} (ok : (delivered moment before served).1 = .ok value) :
    served.1 = .ok value ∧ (delivered moment before served).2 = served.2 := by
  simp only [delivered] at ok ⊢
  split at ok
  · exact ⟨ok, rfl⟩
  · cases ok
  · cases ok

end Delivery

variable [Sha256]

/-- A staged object has no version and describes itself truly. -/
structure Described (key : CacheKey) (xattrs : CacheXattrs) (data : Bytes) : Prop where
  plain : key.versionId = none
  cacheKey : (⟨xattrs.bucket, xattrs.key, xattrs.versionId⟩ : CacheKey) = key
  size : xattrs.size = data.length
  checksum : xattrs.checksum = some (sha256Hex data)

/-- What holds of the services between any two calls. -/
structure InOrder (w : World) : Prop where
  keys : w.metadata.KeysAgree
  orderly : Orderly w.metadata
  sound : w.cache.Sound
  described : ∀ key xattrs data, w.cache.view .staging key = some (xattrs, data) →
    Described key xattrs data

/-- Order is a matter of the catalogue and the cache. -/
theorem InOrder.of_services {before after : World} (inOrder : InOrder before)
    (metadata : after.metadata = before.metadata) (cache : after.cache = before.cache) :
    InOrder after where
  keys := metadata ▸ inOrder.keys
  orderly := metadata ▸ inOrder.orderly
  sound := cache ▸ inOrder.sound
  described := cache ▸ inOrder.described

omit [Sha256] in
/-- Buckets are stored under their names. -/
theorem freshCatalogue_keysAgree (buckets : List String) : (freshCatalogue buckets).KeysAgree := by
  have filled : ∀ (names : List String) (map : HashMap String BucketInfo),
      map.Keyed BucketInfo.name →
        (names.foldl (fun map name => map.insert name { name }) map).Keyed BucketInfo.name := by
    intro names
    induction names with
    | nil => exact fun map keyed => keyed
    | cons name rest ih => exact fun map keyed => ih _ (keyed.insert { name })
  exact { keysAgree_default with buckets := filled buckets _ (HashMap.keyed_empty _) }

/-- A fresh deployment is in order. -/
theorem fresh_inOrder (buckets : List String) (cacheBytes : Nat) (tape : SimulatorState) :
    InOrder (.fresh buckets cacheBytes tape) where
  keys := freshCatalogue_keysAgree buckets
  orderly := ⟨by rintro _ _ ⟨⟩, by rintro _ _ ⟨⟩, by rintro _ _ ⟨⟩, by rintro _ _ ⟨⟩⟩
  sound := sound_empty _ _
  described := by rintro _ _ _ ⟨⟩

/-- The calls schedulers make, with what they make sure of first. -/
def Permits (c : Call) (w : World) : Prop :=
  match c with
  | .metadata (.apply cmd) => Permitted w.metadata cmd
  | .cache (.putStaging messages) => ∃ upload : Upload,
    messages = [some (.metadata upload.description), some (.data upload.body)]
  | _ => True

variable {w : World}

/-- A permitted metadata call keeps the catalogue in order. -/
theorem metadataCall_inOrder (inOrder : InOrder w) (moment : Moment) (call : MetadataCall)
    (permitted : Permits (.metadata call) w) :
    (call.serve moment w.metadata).2.KeysAgree ∧
      Forward w.metadata (call.serve moment w.metadata).2 := by
  cases call with
  | apply cmd =>
    exact ⟨applyCommand_keysAgree inOrder.keys _ cmd,
      applyCommand_forward inOrder.orderly _ permitted⟩
  | _ => exact ⟨inOrder.keys, inOrder.orderly, .refl _⟩

omit [Sha256] in
/-- What a cache call does to staging, but for uploads and deletions: nothing. -/
theorem cacheCall_keepsStaging (svc : CacheService) {s : CacheState HddBackend}
    (sound : s.Sound) (moment : Moment) (call : CacheCall)
    (other : ∀ messages key, call ≠ .putStaging messages ∧ call ≠ .deleteStaging key) :
    StagingKept s (call.serve svc moment s).2 := by
  cases call with
  | putStaging messages => exact absurd rfl (other messages ⟨"", "", none⟩).1
  | deleteStaging key => exact absurd rfl (other [] key).2
  | getStaging key => exact .refl sound
  | listStagingKeys limit after => exact .refl sound
  | putRestored messages => exact putRestored_keepsStaging svc sound _ messages
  | get key => exact get_keepsStaging sound _ key
  | delete key =>
    rw [CacheCall.serve, CacheState.delete, deleteAnswered_ok sound]
    exact deleteEntry_keepsStaging sound key

/-- A permitted cache call leaves a sound cache in which staged objects describe themselves. -/
theorem cacheCall_inOrder (svc : CacheService) (inOrder : InOrder w) (moment : Moment)
    (call : CacheCall) (permitted : Permits (.cache call) w) :
    (call.serve svc moment w.cache).2.Sound ∧ ∀ key xattrs data,
      (call.serve svc moment w.cache).2.view .staging key = some (xattrs, data) →
        Described key xattrs data := by
  have kept : ∀ after, StagingKept w.cache after → after.Sound ∧
      ∀ key xattrs data, after.view .staging key = some (xattrs, data) →
        Described key xattrs data := by
    intro after kept
    refine ⟨kept.sound, fun key xattrs data served => inOrder.described key xattrs data ?_⟩
    rw [← kept.view, served]
  cases call with
  | putStaging messages =>
    obtain ⟨upload, rfl⟩ := permitted
    rcases putStaging_cases svc inOrder.sound moment.seconds upload.description upload.body rfl
      with ⟨id, middle, made, put⟩ | ⟨status, after, made, put⟩
    · simp only [CacheCall.serve, put]
      have stored := stored_stored upload.description.cacheKey
        (upload.description.xattrs moment.seconds) upload.body made.sound
      refine ⟨stored.sound, fun key xattrs data served => ?_⟩
      rw [stored.view] at served
      split at served
      · rename_i same
        simp only [Option.some.injEq, Prod.mk.injEq] at served
        obtain ⟨rfl, rfl⟩ := served
        obtain ⟨_, rfl⟩ := same
        exact ⟨rfl, rfl, rfl, rfl⟩
      · exact (kept middle made).2 key xattrs data served
    · simp only [CacheCall.serve, put]
      exact kept after made
  | deleteStaging key =>
    simp only [CacheCall.serve, deleteStaging_eq inOrder.sound]
    refine ⟨deleteEntry_sound inOrder.sound _ _, fun place xattrs data served => ?_⟩
    rw [deleteEntry_view inOrder.sound] at served
    split at served
    · cases served
    · exact inOrder.described place xattrs data served
  | _ => exact kept _ (cacheCall_keepsStaging svc inOrder.sound moment _ (by simp))

variable (svc : CacheService) (env : Nat → Moment)

/-- A permitted call keeps everything in order, and tasks go forward. -/
theorem serve_inOrder (inOrder : InOrder w) (c : Call) (permitted : Permits c w) :
    InOrder ((machine svc env).serve c w).2 ∧
      Advances w.metadata ((machine svc env).serve c w).2.metadata := by
  cases c with
  | tape _ | here _ => exact ⟨inOrder.of_services rfl rfl, .refl _⟩
  | metadata call =>
    obtain ⟨keys, orderly, advances⟩ := metadataCall_inOrder inOrder (env w.tick) call permitted
    simp only [machine, serve]
    rcases delivered_state (env w.tick) w.metadata
      (call.serve (env w.tick) w.metadata) with same | same <;> rw [same]
    · exact ⟨inOrder.of_services rfl rfl, .refl _⟩
    · exact ⟨⟨keys, orderly, inOrder.sound, inOrder.described⟩, advances⟩
  | cache call =>
    obtain ⟨sound, described⟩ := cacheCall_inOrder svc inOrder (env w.tick) call permitted
    simp only [machine, serve]
    rcases delivered_state (env w.tick) w.cache
      (call.serve svc (env w.tick) w.cache) with same | same <;> rw [same]
    · exact ⟨inOrder.of_services rfl rfl, .refl _⟩
    · exact ⟨⟨inOrder.keys, inOrder.orderly, sound, described⟩, .refl _⟩

/-- What schedulers guarantee each other. -/
def contract : Contract (machine svc env) where
  holds := InOrder
  rely before after := Advances before.metadata after.metadata
  permits := Permits
  refl _ := .refl _
  trans := .trans
  step c _ inOrder permitted _ := serve_inOrder svc env inOrder c permitted

variable {svc env} {w : World}

/-- A call upholds the contract when it is permitted, and a success is one of the service. -/
theorem secures_askMetadata {call : MetadataCall} {post : call.Value → World → Prop}
    (permitted : ∀ later, Advances w.metadata later.metadata → InOrder later →
      Permits (.metadata call) later)
    (met : ∀ later moment value last, InOrder later →
      (call.serve moment later.metadata).1 = .ok value →
      Advances (call.serve moment later.metadata).2 last.metadata → post value last) :
    (contract svc env).Secures (askMetadata call) post w := by
  intro later change inOrder _
  refine ⟨permitted later change inOrder, ?_⟩
  intro last change' _ value ok
  have answered : (delivered (env later.tick) later.metadata
      (call.serve (env later.tick) later.metadata)).1 = .ok value := ok
  obtain ⟨served, left⟩ := delivered_ok answered
  refine met later (env later.tick) value last inOrder served ?_
  rw [← left]
  exact change'

/-- The calls that are permitted in every world. -/
def Harmless : Call → Prop
  | .metadata (.apply (.deleteObject _)) | .metadata (.apply (.createBucket _)) => True
  | .metadata (.apply (.deleteBucket _)) => True
  | .metadata (.apply _) => False
  | .cache (.putStaging _) => False
  | _ => True

theorem Harmless.permits {c : Call} (harmless : Harmless c) (w : World) : Permits c w := by
  cases c with
  | metadata call =>
    cases call with
    | apply cmd => cases cmd <;> first | exact harmless.elim | trivial
    | _ => trivial
  | cache call => cases call <;> first | exact harmless.elim | trivial
  | tape call => trivial
  | here call => trivial

theorem upholds_harmless {α : Type} {program : Sched α} (only : program.Only Harmless) :
    (contract svc env).Upholds program (fun _ _ => True) w :=
  Contract.upholds_of_only (fun _ _ harmless _ => harmless.permits _) only

theorem secures_harmless {ε α : Type} {task : Task ε α} (only : task.run.Only Harmless) :
    (contract svc env).Secured task w :=
  Contract.Upholds.mono (fun _ _ _ _ _ => trivial) (upholds_harmless only)

end ColdStore.Scheduler
