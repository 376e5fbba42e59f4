import ColdStore.Cache.ServiceLaws
import ColdStore.Metadata.ApplyLaws
import ColdStore.Process.Sequential
import ColdStore.Scheduler.Clients

/-! Calls that all arrive: what a scheduler achieves with one call. -/

namespace ColdStore.Scheduler

open Rust Process Program CacheState

/-- Nothing has changed but locks and the time. -/
structure SameServices (before after : World) : Prop where
  metadata : after.metadata = before.metadata
  cache : after.cache = before.cache
  tape : after.tape = before.tape

/-- Nothing has changed but the time. -/
structure Idle (before after : World) : Prop extends SameServices before after where
  schedulers : after.schedulers = before.schedulers

/-- Nothing has changed but the catalogue. -/
structure CatalogueOnly (before after : World) : Prop where
  cache : after.cache = before.cache
  tape : after.tape = before.tape
  schedulers : after.schedulers = before.schedulers

section

variable {first second third : World}

theorem SameServices.symm (same : SameServices first second) : SameServices second first :=
  ⟨same.metadata.symm, same.cache.symm, same.tape.symm⟩

theorem Idle.refl (w : World) : Idle w w := ⟨⟨rfl, rfl, rfl⟩, rfl⟩

theorem Idle.trans (left : Idle first second) (right : Idle second third) : Idle first third :=
  ⟨⟨right.metadata.trans left.metadata, right.cache.trans left.cache, right.tape.trans left.tape⟩,
    right.schedulers.trans left.schedulers⟩

theorem CatalogueOnly.trans (left : CatalogueOnly first second)
    (right : CatalogueOnly second third) : CatalogueOnly first third :=
  ⟨right.cache.trans left.cache, right.tape.trans left.tape, right.schedulers.trans left.schedulers⟩

theorem Idle.catalogueOnly (idle : Idle first second) : CatalogueOnly first second :=
  ⟨idle.cache, idle.tape, idle.schedulers⟩

end

/-- What was just entered is taken out again. -/
theorem filter_ne_cons {item : String} {items : List String} (fresh : item ∉ items) :
    ((item :: items).filter fun other => decide (other ≠ item)) = items := by
  simp only [ne_eq, not_true_eq_false, decide_false, Bool.false_eq_true, not_false_eq_true,
    List.filter_cons_of_neg, List.filter_eq_self, decide_eq_true_eq]
  rintro other mem rfl
  exact fresh mem

theorem setLocks_self (schedulers : Nat → SchedulerLocks) (scheduler : Nat) :
    setLocks schedulers scheduler (schedulers scheduler) = schedulers := by
  funext other
  simp only [setLocks]
  split
  · rename_i same
    rw [same]
  · rfl

@[simp] theorem setLocks_setLocks (schedulers : Nat → SchedulerLocks) (scheduler : Nat)
    (first second : SchedulerLocks) :
    setLocks (setLocks schedulers scheduler first) scheduler second =
      setLocks schedulers scheduler second := by
  funext other
  simp only [setLocks]
  split <;> rfl

@[simp] theorem setLocks_get (schedulers : Nat → SchedulerLocks) (scheduler : Nat)
    (locks : SchedulerLocks) : setLocks schedulers scheduler locks scheduler = locks := if_pos rfl

section

variable {svc : CacheService} {env : Nat → Moment} (calm : Calm env) {w : World}

/-- A local call changes the locks of its scheduler and nothing else. -/
theorem achieves_locally {call : LocalCall} {post : call.Value → World → Prop}
    (enabled : call.enabled (w.schedulers call.scheduler) = true)
    (met : ∀ moment tick, post (call.serve moment (w.schedulers call.scheduler)).1
      { w with
        schedulers := setLocks w.schedulers call.scheduler
          (call.serve moment (w.schedulers call.scheduler)).2
        tick := tick }) : (locally call).Achieves (machine svc env) post w :=
  achieves_perform enabled (met _ _)

/-- The time can always be told. -/
theorem achieves_now :
    nowTimestamp.Achieves (machine svc env) (fun _ after => Idle w after) w :=
  achieves_locally rfl fun _ _ => ⟨⟨rfl, rfl, rfl⟩, setLocks_self _ _⟩

variable {ε : Type}

theorem succeeds_now :
    Succeeds (machine svc env) (liftM nowTimestamp : Task ε Timestamp)
      (fun _ after => Idle w after) w := succeeds_lift achieves_now

/-- The time that is told is that of the moment. -/
theorem succeeds_clock :
    Succeeds (machine svc env) (liftM nowTimestamp : Task ε Timestamp)
      (fun now after => Idle w after ∧ now.seconds = (env w.tick).seconds) w :=
  succeeds_lift (achieves_perform rfl ⟨⟨⟨rfl, rfl, rfl⟩, setLocks_self _ _⟩, rfl⟩)

theorem succeeds_checked {α : Type} {result : Except ε α} {value : α} (ok : result = .ok value) :
    Succeeds (machine svc env) (checked result)
      (fun found after => found = value ∧ Idle w after) w := ⟨value, ok, rfl, .refl w⟩

/-- A check that passes changes nothing. -/
theorem succeeds_passing {α β : Type} {result : Except ε α} {value : α} {rest : α → Task ε β}
    {post : β → World → Prop} (passes : result = .ok value)
    (second : Succeeds (machine svc env) (rest value) post w) :
    Succeeds (machine svc env) (checked result >>= rest) post w := by
  rw [passes]
  exact second

/-- After a check comes the rest, or its failure. -/
theorem achieves_checked {α β : Type} {result : Except ε α} {rest : α → Task ε β}
    {post : Except ε β → World → Prop}
    (passes : ∀ value, result = .ok value → (rest value).run.Achieves (machine svc env) post w)
    (fails : ∀ failure, post (.error failure) w) :
    (checked result >>= rest).run.Achieves (machine svc env) post w := by
  cases result with
  | ok value => exact passes value rfl
  | error failure => exact fails failure

include calm

variable {call : MetadataCall}

/-- A metadata call is answered as the service answers it. -/
theorem achieves_askMetadata {post : Except Status call.Value → World → Prop}
    (met : ∀ moment answer after, call.serve moment w.metadata = (answer, after) →
      ∀ tick, post answer { w with metadata := after, tick := tick }) :
    (askMetadata call).run.Achieves (machine svc env) post w := by
  refine achieves_perform rfl ?_
  simp only [machine, serve, delivered, calm]
  exact met (env w.tick) _ _ rfl (w.tick + 1)

variable {cmd : MetadataCommand}

/-- A command is answered as the catalogue answers it, at any time. -/
theorem achieves_applied {post : Except Status Unit → World → Prop}
    (met : ∀ clock tick, post (applyCommand clock w.metadata cmd).1
      { w with metadata := (applyCommand clock w.metadata cmd).2, tick := tick }) :
    (applied cmd).run.Achieves (machine svc env) post w := by
  refine achieves_askMetadata calm fun moment answer after served tick => ?_
  have same : applyCommand moment.seconds w.metadata cmd = (answer, after) := served
  have holds := met moment.seconds tick
  rw [same] at holds
  exact holds

/-- A metadata call that the service answers with success succeeds. -/
theorem succeeds_askMetadata {post : call.Value → World → Prop}
    (met : ∀ moment, ∃ value after, call.serve moment w.metadata = (.ok value, after) ∧
      ∀ tick, post value { w with metadata := after, tick := tick }) :
    Succeeds (machine svc env) (askMetadata call) post w := by
  refine achieves_askMetadata calm fun moment answer after served tick => ?_
  obtain ⟨value, s, ok, holds⟩ := met moment
  rw [ok, Prod.mk.injEq] at served
  obtain ⟨rfl, rfl⟩ := served
  exact ⟨value, rfl, holds tick⟩

/-- A metadata call that reads succeeds with what it reads. -/
theorem succeeds_read {value : call.Value}
    (reads : ∀ moment, call.serve moment w.metadata = (.ok value, w.metadata)) :
    Succeeds (machine svc env) (askMetadata call)
      (fun found after => found = value ∧ Idle w after) w := succeeds_askMetadata calm fun moment =>
    ⟨value, w.metadata, reads moment, fun _ => ⟨rfl, ⟨rfl, rfl, rfl⟩, rfl⟩⟩

theorem headObject_succeeds {bucket key : String} {obj : ObjectMetadata}
    (found : findObject w.metadata bucket key none = .ok obj) :
    Succeeds (machine svc env) (headObject bucket key)
      (fun answer after => answer = obj ∧ Idle w after) w := succeeds_read calm fun _ => by
    rw [MetadataCall.serve, MetadataState.headObject, found]
    rfl

theorem getArchiveTask_succeeds {id : String} {task : ArchiveTask}
    (found : w.metadata.archiveTasks.get id = some task) :
    Succeeds (machine svc env) (getArchiveTask id)
      (fun answer after => answer = task ∧ Idle w after) w := succeeds_read calm fun _ => by
    rw [MetadataCall.serve, MetadataState.getArchiveTask, found]
    rfl

theorem getRecallTask_succeeds {id : String} {task : RecallTask}
    (found : w.metadata.recallTasks.get id = some task) :
    Succeeds (machine svc env) (getRecallTask id)
      (fun answer after => answer = task ∧ Idle w after) w := succeeds_read calm fun _ => by
    rw [MetadataCall.serve, MetadataState.getRecallTask, found]
    rfl

/-- A command that the catalogue accepts at any time succeeds. -/
theorem applied_succeeds {post : MetadataState → Prop}
    (accepted : ∀ clock, ∃ after, applyCommand clock w.metadata cmd = (.ok (), after) ∧ post after)
    : Succeeds (machine svc env) (applied cmd)
      (fun _ after => CatalogueOnly w after ∧ post after.metadata) w :=
  succeeds_askMetadata calm fun moment =>
    let ⟨after, ok, met⟩ := accepted moment.seconds
    ⟨(), after, ok, fun _ => ⟨⟨rfl, rfl, rfl⟩, met⟩⟩

/-- Putting what is there already is tolerated, and changes nothing. -/
theorem putOnce_present
    (present : ∀ clock,
      applyCommand clock w.metadata cmd = (.ok (), w.metadata) ∨
        ∃ message, applyCommand clock w.metadata cmd
          = (.error (.alreadyExists message), w.metadata)) : Succeeds (machine svc env)
      (do
        match ← tried (applied cmd) with
        | .ok () => pure ()
        | .error status => if status.code ≠ .alreadyExists then throw status : Task Status Unit)
      (fun _ after => Idle w after) w := by
  have served : (applied cmd).run.Achieves (machine svc env)
      (fun result after => Idle w after ∧
        (result = .ok () ∨ ∃ message, result = .error (.alreadyExists message))) w := by
    refine achieves_applied calm fun clock tick => ?_
    obtain done | ⟨message, refused⟩ := present clock
    · rw [done]
      exact ⟨⟨⟨rfl, rfl, rfl⟩, rfl⟩, .inl rfl⟩
    · rw [refused]
      exact ⟨⟨⟨rfl, rfl, rfl⟩, rfl⟩, .inr ⟨message, rfl⟩⟩
  refine succeeds_bind (succeeds_lift served) fun answer after met => ?_
  obtain ⟨idle, rfl | ⟨message, rfl⟩⟩ := met
  · exact succeeds_pure idle
  · exact succeeds_pure idle

/-- A cache call that the service answers with success succeeds. -/
theorem succeeds_askCache {call : CacheCall} {post : call.Value → World → Prop}
    (met : ∀ now, ∃ value after,
      call.serve svc (env now) w.cache = (.ok value, after) ∧
        ∀ tick, post value { w with cache := after, tick := tick }) :
    Succeeds (machine svc env) (askCache call) post w := by
  refine achieves_perform rfl ?_
  obtain ⟨value, after, served, holds⟩ := met w.tick
  refine ⟨value, ?_, ?_⟩
  · simp only [machine, serve, delivered, calm, served]
  · simpa only [machine, serve, delivered, calm, served] using holds (w.tick + 1)

/-- A tape call that the service answers with success succeeds. -/
theorem succeeds_askTape {call : TapeRequest} {value : call.Value} {tape : SimulatorState}
    (served : call.serve w.tape = (.ok value, tape)) :
    Succeeds (machine svc env) (askTape call)
      (fun found after => found = value ∧ after.tape = tape ∧ after.metadata = w.metadata ∧
        after.cache = w.cache ∧ after.schedulers = w.schedulers) w := by
  refine achieves_perform rfl ⟨value, ?_, rfl, ?_, rfl, rfl, rfl⟩
  · simp only [machine, serve, delivered, calm, served]
  · simp only [machine, serve, delivered, calm, served]

end

end ColdStore.Scheduler
