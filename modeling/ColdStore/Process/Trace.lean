import ColdStore.Process.Task

/-! What was called and answered in a run, and the rules threads keep to about their own part of it. -/

namespace Process

variable {C : Type} {R : C → Type} {W ι ρ α β ε δ : Type}

/-- A call with the answer it got. -/
abbrev Exchange (C : Type) (R : C → Type) := (c : C) × R c

/-- Rules about the history of one thread: the answers that can come, and the calls it makes. -/
structure Discipline (C : Type) (R : C → Type) where
  comes : List (Exchange C R) → Exchange C R → Prop
  makes : List (Exchange C R) → C → Prop

namespace Program

/-- A program makes the calls of a discipline, and its value and history meet a postcondition. -/
def Follows (discipline : Discipline C R) :
    Program C R α → (α → List (Exchange C R) → Prop) → List (Exchange C R) → Prop
  | .done value, post, past => post value past
  | .call c next, post, past =>
    discipline.makes past c ∧ ∀ answer, discipline.comes past ⟨c, answer⟩ →
      (next answer).Follows discipline post (past ++ [⟨c, answer⟩])

variable {discipline : Discipline C R} {past : List (Exchange C R)}

variable {program : Program C R α} {post : α → List (Exchange C R) → Prop}

/-- What a program ends with may be weakened. -/
theorem Follows.mono {weaker : α → List (Exchange C R) → Prop}
    (follows : program.Follows discipline post past)
    (implies : ∀ value later, post value later → weaker value later) :
    program.Follows discipline weaker past := by
  induction program generalizing past with
  | done value => exact implies value past follows
  | call c next ih =>
    obtain ⟨makes, rest⟩ := follows
    exact ⟨makes, fun answer comes => ih answer (rest answer comes)⟩

/-- A history is only ever added to. -/
theorem Follows.longer (follows : program.Follows discipline post past) :
    program.Follows discipline (fun value later => past ⊆ later ∧ post value later) past := by
  induction program generalizing past with
  | done value => exact ⟨fun _ mem => mem, follows⟩
  | call c next ih =>
    refine ⟨follows.1, fun answer comes => (ih answer (follows.2 answer comes)).mono ?_⟩
    rintro value later ⟨longer, met⟩
    exact ⟨fun _ mem => longer (List.mem_append_left _ mem), met⟩

/-- In sequence, the second program goes on with the history of the first. -/
theorem follows_bind {rest : α → Program C R β} {post : β → List (Exchange C R) → Prop}
    (follows : program.Follows discipline
      (fun value later => (rest value).Follows discipline post later) past) :
    (program >>= rest).Follows discipline post past := by
  induction program generalizing past with
  | done value => exact follows
  | call c next ih =>
    obtain ⟨makes, onward⟩ := follows
    exact ⟨makes, fun answer comes => ih answer (onward answer comes)⟩

/-- A single call follows a discipline that lets it be made. -/
theorem follows_perform {c : C} {post : R c → List (Exchange C R) → Prop}
    (makes : discipline.makes past c)
    (met : ∀ answer, discipline.comes past ⟨c, answer⟩ → post answer (past ++ [⟨c, answer⟩])) :
    (perform c).Follows discipline post past := ⟨makes, met⟩

/-- Alone, a program that follows a discipline keeps what its calls keep in agreement. -/
theorem Follows.run {machine : Machine C R W} {agrees : List (Exchange C R) → W → Prop}
    (serves : ∀ past c w, agrees past w → discipline.makes past c →
      agrees (past ++ [⟨c, (machine.serve c w).1⟩]) (machine.serve c w).2 ∧
        discipline.comes past ⟨c, (machine.serve c w).1⟩) {value : α} {after : W} :
    ∀ {past : List (Exchange C R)} {w : W}, program.Follows discipline post past →
      agrees past w → program.run machine w = some (value, after) →
        ∃ later, agrees later after ∧ post value later := by
  -- By induction on the program, with what has been exchanged so far.
  induction program with
  | done result =>
    intro past w follows agree ran
    simp only [Program.run, Option.some.injEq, Prod.mk.injEq] at ran
    obtain ⟨rfl, rfl⟩ := ran
    exact ⟨past, agree, follows⟩
  | call c next ih =>
    intro past w follows agree ran
    simp only [Program.run] at ran
    split at ran
    · obtain ⟨makes, onward⟩ := follows
      obtain ⟨agree, comes⟩ := serves past c w agree makes
      exact ih _ (onward _ comes) agree ran
    · cases ran

/-- Calls that may be made at any time follow a discipline. -/
theorem follows_of_only {allowed : C → Prop}
    (makes : ∀ past c, allowed c → discipline.makes past c) (only : program.Only allowed) :
    program.Follows discipline (fun _ _ => True) past := by
  induction program generalizing past with
  | done value => trivial
  | call c next ih =>
    exact ⟨makes past c only.1, fun answer _ => ih answer (only.2 answer)⟩

/-- Calls that may be made while something holds of the history, and leave it so. -/
theorem follows_while {allowed : C → Prop} {holds : List (Exchange C R) → Prop}
    (makes : ∀ past c, holds past → allowed c → discipline.makes past c)
    (keeps : ∀ past c answer, holds past → allowed c → holds (past ++ [⟨c, answer⟩]))
    (only : program.Only allowed) (met : holds past) :
    program.Follows discipline (fun _ later => holds later) past := by
  induction program generalizing past with
  | done value => exact met
  | call c next ih =>
    exact ⟨makes past c met only.1, fun answer _ =>
      ih answer (only.2 answer) (keeps past c answer met only.1)⟩

end Program

section Fallible

open Program

variable {discipline : Discipline C R} {past : List (Exchange C R)}
  {task : ExceptT ε (Program C R) α} {rest : α → ExceptT ε (Program C R) β}

/-- In a sequence that may fail, a failure of the first part is the end. -/
theorem follows_try {post : Except ε β → List (Exchange C R) → Prop}
    (follows : task.run.Follows discipline (fun result later => match result with
      | .ok value => (rest value).run.Follows discipline post later
      | .error failure => post (.error failure) later) past) :
    (task >>= rest).run.Follows discipline post past := by
  rw [ExceptT.run_bind]
  apply follows_bind
  apply follows.mono
  intro result later met
  cases result with
  | ok value => exact met
  | error failure => exact met

/-- A program that cannot fail goes on with its value inside one that may. -/
theorem follows_lift {program : Program C R α} {post : Except ε α → List (Exchange C R) → Prop}
    (follows : program.Follows discipline (fun value later => post (.ok value) later) past) :
    (ExceptT.lift program : ExceptT ε (Program C R) α).run.Follows discipline post past := by
  rw [ExceptT.run_lift]
  exact follows_bind follows

/-- A task whose failures are rewritten makes the same calls. -/
theorem follows_adapt {change : ε → δ} {post : Except δ α → List (Exchange C R) → Prop}
    (follows : task.run.Follows discipline (fun result later => post (result.mapError change) later)
      past) : (ExceptT.adapt change task).run.Follows discipline post past := by
  apply follows_bind
  apply follows.mono
  intro result later met
  cases result with
  | ok value => exact met
  | error failure => exact met

end Fallible

/-- The last mark that the exchanges of a history have left, and the initial one before any. -/
def latest {μ : Type} (mark : Exchange C R → Option μ) (initial : μ)
    (past : List (Exchange C R)) : μ :=
  past.foldl (fun last exchange => (mark exchange).getD last) initial

/-- One more exchange leaves its own mark, or the last one before it. -/
@[simp] theorem latest_concat {μ : Type} (mark : Exchange C R → Option μ) (initial : μ)
    (past : List (Exchange C R)) (exchange : Exchange C R) :
    latest mark initial (past ++ [exchange]) = (mark exchange).getD (latest mark initial past) := by
  simp [latest, List.foldl_append]

/-! Traces. -/

/-- An exchange of the thread at a position, which serves a request. -/
structure Entry (C : Type) (R : C → Type) (ι : Type) where
  spot : Nat
  request : ι
  exchange : Exchange C R

/-- What was called and answered in a run, in order. -/
abbrev Trace (C : Type) (R : C → Type) (ι : Type) := List (Entry C R ι)

/-- The call that an event gets served and its answer. -/
def Config.entryAt (machine : Machine C R W) (config : Config C R W ι ρ) :
    Event ι → Option (Entry C R ι)
  | .spawn _ => none
  | .step spot =>
    match config.threads[spot]? with
    | some ⟨req, .call c _⟩ =>
      if machine.enabled c config.world then
        some ⟨spot, req, ⟨c, (machine.serve c config.world).1⟩⟩
      else none
    | _ => none

/-- What was called and answered in a run. -/
def Config.trace (machine : Machine C R W) (start : ι → Program C R ρ)
    (config : Config C R W ι ρ) : List (Event ι) → Trace C R ι
  | [] => []
  | event :: rest =>
    (config.entryAt machine event).toList ++ (config.next machine start event).trace machine start rest

/-- The part of a trace that one thread took part in. -/
def ownPart (spot : Nat) (trace : Trace C R ι) : List (Exchange C R) :=
  (trace.filter fun entry => entry.spot = spot).map Entry.exchange

/-- Every event of a run meets a condition on what was called and answered before. -/
def Config.Observes (machine : Machine C R W) (start : ι → Program C R ρ)
    (condition : Trace C R ι → Config C R W ι ρ → Event ι → Prop) :
    Trace C R ι → Config C R W ι ρ → List (Event ι) → Prop
  | _, _, [] => True
  | trace, config, event :: rest =>
    condition trace config event ∧
      Config.Observes machine start condition (trace ++ (config.entryAt machine event).toList)
        (config.next machine start event) rest

instance instDecidableObserves (machine : Machine C R W) (start : ι → Program C R ρ)
    (condition : Trace C R ι → Config C R W ι ρ → Event ι → Prop)
    [decide : ∀ trace config event, Decidable (condition trace config event)] :
    ∀ (trace : Trace C R ι) (config : Config C R W ι ρ) (events : List (Event ι)),
      Decidable (Config.Observes machine start condition trace config events)
  | _, _, [] => .isTrue trivial
  | trace, config, event :: rest =>
    haveI := decide trace config event
    haveI : Decidable (Config.Observes machine start condition
        (trace ++ (config.entryAt machine event).toList) (config.next machine start event) rest) :=
      instDecidableObserves machine start condition _ _ rest
    inferInstanceAs (Decidable (_ ∧ _))

/-- Every run meets a condition that asks for nothing. -/
theorem Config.observes_trivial (machine : Machine C R W) (start : ι → Program C R ρ)
    (events : List (Event ι)) : ∀ (trace : Trace C R ι) (config : Config C R W ι ρ),
      Config.Observes machine start (fun _ _ _ => True) trace config events := by
  induction events with
  | nil => exact fun _ _ => trivial
  | cons event rest ih => exact fun _ _ => ⟨trivial, ih _ _⟩

/-- Every event records at most one entry, so before each the trace is shorter than at the end. -/
theorem Config.observes_length (machine : Machine C R W) (start : ι → Program C R ρ) {limit : Nat}
    (events : List (Event ι)) : ∀ (trace : Trace C R ι) (config : Config C R W ι ρ),
      trace.length + events.length ≤ limit →
        Config.Observes machine start (fun trace _ _ => trace.length < limit) trace config events := by
  induction events with
  | nil => exact fun _ _ _ => trivial
  | cons event rest ih =>
    intro trace config short
    rw [List.length_cons] at short
    have recorded : (config.entryAt machine event).toList.length ≤ 1 := by
      cases config.entryAt machine event <;> simp
    refine ⟨by omega, ih _ _ ?_⟩
    rw [List.length_append]
    omega

variable {machine : Machine C R W} {start : ι → Program C R ρ}

/-- A run whose trace has certain entries only meets the condition to make no others. -/
theorem Config.observes_of_trace {admitted : Entry C R ι → Prop} (events : List (Event ι)) :
    ∀ (trace : Trace C R ι) (config : Config C R W ι ρ),
      (∀ entry ∈ config.trace machine start events, admitted entry) →
        Config.Observes machine start
          (fun _ config event => ∀ entry, config.entryAt machine event = some entry → admitted entry)
          trace config events := by
  induction events with
  | nil => exact fun _ _ _ => trivial
  | cons event rest ih =>
    intro trace config all
    rw [Config.trace] at all
    -- The first event records at most one entry, and the others come behind it.
    refine ⟨fun entry recorded => ?_, ih _ _ fun entry mem => ?_⟩
    · exact all entry (List.mem_append_left _ (by simp [recorded]))
    · exact all entry (List.mem_append_right _ mem)

section

variable (spot : Nat) (trace : Trace C R ι)

/-- What a thread exchanges is added to its own part. -/
theorem ownPart_concat_self (req : ι) (exchange : Exchange C R) :
    ownPart spot (trace ++ [⟨spot, req, exchange⟩]) = ownPart spot trace ++ [exchange] := by
  simp [ownPart]

/-- What another thread exchanges is not. -/
theorem ownPart_concat_ne {entry : Entry C R ι} (ne : entry.spot ≠ spot) :
    ownPart spot (trace ++ [entry]) = ownPart spot trace := by
  simp [ownPart, ne]

/-- The own part of a thread are the exchanges recorded at its position. -/
theorem mem_ownPart {exchange : Exchange C R} :
    exchange ∈ ownPart spot trace
      ↔ ∃ entry ∈ trace, entry.spot = spot ∧ entry.exchange = exchange := by
  simp [ownPart, and_assoc]

variable {spot trace}

/-- With one more entry, it is an old exchange or that of the entry. -/
theorem mem_ownPart_concat {entry : Entry C R ι} {exchange : Exchange C R} :
    exchange ∈ ownPart spot (trace ++ [entry])
      ↔ exchange ∈ ownPart spot trace ∨ entry.spot = spot ∧ entry.exchange = exchange := by
  by_cases same : entry.spot = spot
  · simp [ownPart, same, eq_comm]
  · simp [ownPart, same]

end

/-- A step serves the next call of its thread and is recorded, or there is nothing to serve. -/
theorem Config.entry_cases (machine : Machine C R W) (config : Config C R W ι ρ) (spot : Nat) :
    (∃ req c next, config.threads[spot]? = some ⟨req, .call c next⟩ ∧
      config.entryAt machine (.step spot)
        = some ⟨spot, req, ⟨c, (machine.serve c config.world).1⟩⟩ ∧
      machine.enabled c config.world = true ∧ config.advance machine spot =
        { world := (machine.serve c config.world).2,
          threads := config.threads.set spot ⟨req, next (machine.serve c config.world).1⟩ }) ∨
    config.entryAt machine (.step spot) = none ∧ config.advance machine spot = config := by
  rcases config.advance_cases machine spot with
    ⟨req, c, next, found, _, enabled, advanced⟩ | ⟨idle, still⟩
  · exact .inl ⟨req, c, next, found, by simp [entryAt, found, enabled], enabled, advanced⟩
  · -- Only a call that is served is recorded.
    refine .inr ⟨?_, still⟩
    simp only [servedAt, entryAt] at idle ⊢
    split <;> simp_all

/-- What every call preserves is true of the world after every run. -/
theorem Config.after_keeps (keeps : W → Prop)
    (serves : ∀ c w, keeps w → keeps (machine.serve c w).2) (events : List (Event ι)) :
    ∀ config : Config C R W ι ρ, keeps config.world →
      keeps (config.after machine start events).world := by
  induction events with
  | nil => exact fun _ kept => kept
  | cons event rest ih =>
    intro config kept
    apply ih
    -- A new thread does not touch the world, and a step serves one call or none.
    cases event with
    | spawn req => exact kept
    | step spot =>
      rcases config.entry_cases machine spot with ⟨_, c, _, _, _, _, advanced⟩ | ⟨_, still⟩
      · rw [Config.next, advanced]
        exact serves c config.world kept
      · rw [Config.next, still]
        exact kept

/-- How often a condition on the world comes to hold in a run. -/
def Config.rises (machine : Machine C R W) (start : ι → Program C R ρ) (holds : W → Bool) :
    Config C R W ι ρ → List (Event ι) → Nat
  | _, [] => 0
  | config, event :: rest =>
    let next := config.next machine start event
    (if !holds config.world && holds next.world then 1 else 0) + next.rises machine start holds rest

/-- What no call undoes comes to hold once at most, and never if it has held from the start. -/
theorem Config.rises_le {holds : W → Bool}
    (serves : ∀ c w, holds w = true → holds (machine.serve c w).2 = true)
    (events : List (Event ι)) : ∀ config : Config C R W ι ρ,
      config.rises machine start holds events ≤ if holds config.world then 0 else 1 := by
  induction events with
  | nil => exact fun _ => Nat.zero_le _
  | cons event rest ih =>
    intro config
    have kept : holds config.world = true → holds (config.next machine start event).world = true :=
      Config.after_keeps (fun w => holds w = true) serves [event] config
    have later := ih (config.next machine start event)
    rw [Config.rises]
    -- Once it holds, nothing is counted any more.
    cases before : holds config.world with
    | true =>
      simpa [kept before] using later
    | false =>
      cases now : holds (config.next machine start event).world with
      | true =>
        have none : (config.next machine start event).rises machine start holds rest = 0 := by
          simpa [now] using later
        simp [none]
      | false => simpa [now] using later

/-- A step of a thread whose call is enabled records the call with its answer. -/
theorem Config.entryAt_step {config : Config C R W ι ρ} {spot : Nat} {req : ι} {c : C}
    {next : R c → Program C R ρ} (found : config.threads[spot]? = some ⟨req, .call c next⟩)
    (enabled : machine.enabled c config.world = true) :
    config.entryAt machine (.step spot)
      = some ⟨spot, req, ⟨c, (machine.serve c config.world).1⟩⟩ := by
  simp only [entryAt, found, enabled, if_true]

/-- Every thread follows the discipline of its request, and trace and world agree. -/
structure Disciplined (discipline : ι → Discipline C R) (agrees : Trace C R ι → W → Prop)
    (post : ι → ρ → List (Exchange C R) → Prop) (trace : Trace C R ι)
    (config : Config C R W ι ρ) : Prop where
  agrees : agrees trace config.world
  follows : ∀ spot (thread : Thread C R ι ρ), config.threads[spot]? = some thread →
    thread.program.Follows (discipline thread.request) (post thread.request) (ownPart spot trace)
  /-- Entries name the threads that made them. -/
  made : ∀ entry ∈ trace, ∃ thread, config.threads[entry.spot]? = some thread ∧
    thread.request = entry.request

section

variable {machine : Machine C R W} {start : ι → Program C R ρ} {discipline : ι → Discipline C R}
  {agrees : Trace C R ι → W → Prop} {post : ι → ρ → List (Exchange C R) → Prop}
  {condition : Trace C R ι → Config C R W ι ρ → Event ι → Prop}

variable {trace : Trace C R ι} {config : Config C R W ι ρ}

section

/-- What the thread at a position calls is answered as it expects, and keeps what is known. -/
def Config.Serves (machine : Machine C R W) (discipline : ι → Discipline C R)
    (agrees : Trace C R ι → W → Prop) (trace : Trace C R ι) (config : Config C R W ι ρ)
    (spot : Nat) : Prop := ∀ req c next, config.threads[spot]? = some ⟨req, .call c next⟩ →
    machine.enabled c config.world = true →
    (∀ entry ∈ trace, entry.spot = spot → entry.request = req) →
    (discipline req).makes (ownPart spot trace) c →
      agrees (trace ++ [⟨spot, req, ⟨c, (machine.serve c config.world).1⟩⟩])
          (machine.serve c config.world).2 ∧ (discipline req).comes (ownPart spot trace)
          ⟨c, (machine.serve c config.world).1⟩

variable (disciplined : Disciplined discipline agrees post trace config)

include disciplined

/-- Nothing was called by a thread that has not been started. -/
theorem Disciplined.fresh {spot : Nat} (behind : config.threads.length ≤ spot) :
    ownPart spot trace = [] := by
  apply List.eq_nil_iff_forall_not_mem.mpr
  intro exchange mem
  obtain ⟨entry, recorded, rfl, _⟩ := (mem_ownPart _ _).mp mem
  obtain ⟨thread, found, _⟩ := disciplined.made entry recorded
  exact absurd (List.getElem?_eq_some_iff.mp found).1 (Nat.not_lt_of_le behind)

/-- A new thread follows the discipline if its program does. -/
theorem Disciplined.spawn {req : ι} (begins : (start req).Follows (discipline req) (post req) []) :
    Disciplined discipline agrees post trace (config.next machine start (.spawn req)) where
  agrees := disciplined.agrees
  follows spot thread found := by
    simp only [Config.next] at found
    by_cases old : spot < config.threads.length
    · rw [List.getElem?_append_left old] at found
      exact disciplined.follows spot thread found
    · -- Only the new thread is behind the old ones.
      rw [List.getElem?_append_right (Nat.le_of_not_lt old)] at found
      have same := List.mem_of_getElem? found
      rw [List.mem_singleton] at same
      rw [disciplined.fresh (Nat.le_of_not_lt old), same]
      exact begins
  made entry recorded := by
    obtain ⟨thread, found, same⟩ := disciplined.made entry recorded
    have present := (List.getElem?_eq_some_iff.mp found).1
    exact ⟨thread, by rw [Config.next, List.getElem?_append_left present, found], same⟩

/-- A served call keeps the discipline, for its own thread and for all others. -/
theorem Disciplined.step {spot : Nat}
    (serves : config.Serves machine discipline agrees trace spot) :
    Disciplined discipline agrees post (trace ++ (config.entryAt machine (.step spot)).toList)
      (config.advance machine spot) := by
  rcases config.entry_cases machine spot with
    ⟨req, c, next, found, recorded, enabled, advanced⟩ | ⟨silent, still⟩
  · have present := (List.getElem?_eq_some_iff.mp found).1
    -- A thread keeps its request, so the entries at its position are all for that request.
    have own : ∀ entry ∈ trace, entry.spot = spot → entry.request = req := by
      rintro entry mem rfl
      obtain ⟨thread, there, same⟩ := disciplined.made entry mem
      rw [found, Option.some.injEq] at there
      rw [← same, ← there]
    obtain ⟨makes, onward⟩ := disciplined.follows spot _ found
    obtain ⟨agree, comes⟩ := serves req c next found enabled own makes
    rw [recorded, advanced, Option.toList_some]
    refine ⟨agree, fun other thread there => ?_, fun entry mem => ?_⟩
    -- The thread that was served goes on behind its call, and the others' parts have not grown.
    · by_cases same : other = spot
      · subst same
        rw [List.getElem?_set_self present] at there
        rw [ownPart_concat_self, ← Option.some.inj there]
        exact onward _ comes
      · rw [List.getElem?_set_ne (Ne.symm same)] at there
        rw [ownPart_concat_ne _ _ (Ne.symm same)]
        exact disciplined.follows other thread there
    · by_cases same : entry.spot = spot
      · have named : entry.request = req := by
          rcases List.mem_append.mp mem with old | new
          · exact own entry old same
          · rw [List.mem_singleton.mp new]
        exact ⟨_, by rw [same, List.getElem?_set_self present], named.symm⟩
      · have old : entry ∈ trace := by
          rcases List.mem_append.mp mem with old | new
          · exact old
          · rw [List.mem_singleton.mp new] at same
            exact absurd rfl same
        obtain ⟨thread, there, named⟩ := disciplined.made entry old
        exact ⟨thread, by rw [List.getElem?_set_ne (Ne.symm same), there], named⟩
  · rw [silent, still, Option.toList_none, List.append_nil]
    exact disciplined

/-- One event keeps the discipline if the program it starts, or the call it gets served, does. -/
theorem Disciplined.next {event : Event ι}
    (begins : ∀ req, event = .spawn req → (start req).Follows (discipline req) (post req) [])
    (serves : ∀ spot, event = .step spot → config.Serves machine discipline agrees trace spot) :
    Disciplined discipline agrees post (trace ++ (config.entryAt machine event).toList)
      (config.next machine start event) := by
  cases event with
  | spawn req =>
    rw [Config.entryAt, Option.toList_none, List.append_nil]
    exact disciplined.spawn (begins req rfl)
  | step spot => exact disciplined.step (serves spot rfl)

end

/--
What single events are allowed to do, told by the trace of the whole run.

It is enough that each event, as long as all was well before, is allowed exactly if all is still
well with what it records.
-/
theorem Disciplined.admits_iff {allowed : Config C R W ι ρ → Event ι → Prop}
    {well : Trace C R ι → Prop} (before : ∀ trace more, well (trace ++ more) → well trace)
    (keeps : ∀ trace config event, Disciplined discipline agrees post trace config →
      condition trace config event →
        Disciplined discipline agrees post (trace ++ (config.entryAt machine event).toList)
          (config.next machine start event))
    (tells : ∀ trace config event, Disciplined discipline agrees post trace config →
      condition trace config event → well trace →
        (allowed config event ↔ well (trace ++ (config.entryAt machine event).toList)))
    (events : List (Event ι)) :
    ∀ trace (config : Config C R W ι ρ), Disciplined discipline agrees post trace config →
      Config.Observes machine start condition trace config events → well trace →
        (config.Admits machine start allowed events ↔
          well (trace ++ config.trace machine start events)) := by
  induction events with
  | nil =>
    intro trace config _ _ good
    rw [Config.trace, List.append_nil]
    exact ⟨fun _ => good, fun _ => trivial⟩
  | cons event rest ih =>
    intro trace config disciplined observed good
    have told := tells trace config event disciplined observed.1 good
    have first := keeps trace config event disciplined observed.1
    rw [Config.Admits, Config.trace, ← List.append_assoc]
    -- If all is well behind the first event, the others decide, and else nothing can mend it.
    constructor
    · intro admitted
      exact (ih _ _ first observed.2 (told.mp admitted.1)).mp admitted.2
    · intro good
      have between := before _ _ good
      exact ⟨told.mpr between, (ih _ _ first observed.2 between).mpr good⟩

/-- In every run whose events meet the condition, the discipline is kept. -/
theorem Disciplined.after (admitted : ι → Prop)
    (begins : ∀ req, admitted req → (start req).Follows (discipline req) (post req) [])
    (serves : ∀ trace (config : Config C R W ι ρ) spot, agrees trace config.world →
      condition trace config (.step spot) →
        config.Serves machine discipline agrees trace spot) (events : List (Event ι)) :
    ∀ trace (config : Config C R W ι ρ), Disciplined discipline agrees post trace config →
      Config.Observes machine start condition trace config events →
      (∀ req, .spawn req ∈ events → admitted req) →
        Disciplined discipline agrees post (trace ++ config.trace machine start events)
          (config.after machine start events) := by
  induction events with
  | nil =>
    intro trace config disciplined _ _
    rw [Config.trace, List.append_nil]
    exact disciplined
  | cons event rest ih =>
    intro trace config disciplined observed allowed
    -- One event keeps the discipline, and the rest follows by induction.
    have first : Disciplined discipline agrees post
        (trace ++ (config.entryAt machine event).toList) (config.next machine start event) := by
      refine disciplined.next (fun req same => ?_) fun spot same => ?_
      · exact begins req (allowed req (same ▸ List.mem_cons_self))
      · exact serves trace config spot disciplined.agrees (same ▸ observed.1)
    have second := ih _ _ first observed.2 fun req mem =>
      allowed req (List.mem_cons_of_mem event mem)
    rw [List.append_assoc] at second
    exact second

/-- Nothing has been called before the first thread is started. -/
theorem Disciplined.initial {w : W} (agree : agrees [] w) :
    Disciplined discipline agrees post [] (⟨w, []⟩ : Config C R W ι ρ) where
  agrees := agree
  follows spot thread found := by simp at found
  made entry mem := (List.not_mem_nil mem).elim

end

end Process
