import ColdStore.Process.Program

/-! Threads that interleave call by call, and the invariants every interleaving keeps. -/

namespace Process

variable {C : Type} {R : C → Type} {W ι ρ : Type}

/-- A thread serves one request and holds what is left of its program. -/
structure Thread (C : Type) (R : C → Type) (ι ρ : Type) where
  request : ι
  program : Program C R ρ

/-- The shared world and every thread started so far. -/
structure Config (C : Type) (R : C → Type) (W ι ρ : Type) where
  world : W
  threads : List (Thread C R ι ρ)

/-- A new request arrives, or the thread at a position gets its next call served. -/
inductive Event (ι : Type) where
  | spawn (req : ι)
  | step (spot : Nat)

/-- Serve the next call of a thread, unless it has none or the call blocks. -/
def Config.advance (machine : Machine C R W) (config : Config C R W ι ρ) (spot : Nat) :
    Config C R W ι ρ :=
  match config.threads[spot]? with
  | some ⟨req, .call c next⟩ =>
    if machine.enabled c config.world then
      { world := (machine.serve c config.world).2,
        threads := config.threads.set spot ⟨req, next (machine.serve c config.world).1⟩ }
    else config
  | _ => config

/-- The configuration after one event. -/
def Config.next (machine : Machine C R W) (start : ι → Program C R ρ)
    (config : Config C R W ι ρ) : Event ι → Config C R W ι ρ
  | .spawn req => { config with threads := config.threads ++ [⟨req, start req⟩] }
  | .step spot => config.advance machine spot

/-- The configuration after a sequence of events. -/
def Config.after (machine : Machine C R W) (start : ι → Program C R ρ)
    (config : Config C R W ι ρ) (events : List (Event ι)) : Config C R W ι ρ :=
  events.foldl (Config.next machine start) config

variable (machine : Machine C R W) (start : ι → Program C R ρ)

theorem Config.after_append (config : Config C R W ι ρ) (events more : List (Event ι)) :
    config.after machine start (events ++ more) =
      (config.after machine start events).after machine start more := List.foldl_append

/-- All threads have come to their end. -/
def Config.Ended (config : Config C R W ι ρ) : Prop :=
  ∀ thread ∈ config.threads, ∃ value, thread.program = .done value

instance (config : Config C R W ι ρ) : Decidable config.Ended :=
  haveI (thread : Thread C R ι ρ) : Decidable (∃ value, thread.program = .done value) :=
    match thread with
    | ⟨_, .done value⟩ => .isTrue ⟨value, rfl⟩
    | ⟨_, .call _ _⟩ => .isFalse (by rintro ⟨_, same⟩; cases same)
  inferInstanceAs (Decidable (∀ thread ∈ config.threads, ∃ value, thread.program = .done value))

/-- The request and call an event gets served, if any. -/
def Config.servedAt (machine : Machine C R W) (config : Config C R W ι ρ) :
    Event ι → Option (ι × C)
  | .spawn _ => none
  | .step spot =>
    match config.threads[spot]? with
    | some ⟨req, .call c _⟩ => if machine.enabled c config.world then some (req, c) else none
    | _ => none

/-- The calls served in a run, in order, each with the request it was made for. -/
def Config.served (machine : Machine C R W) (start : ι → Program C R ρ)
    (config : Config C R W ι ρ) : List (Event ι) → List (ι × C)
  | [] => []
  | event :: rest =>
    (config.servedAt machine event).toList ++ (config.next machine start event).served machine start rest

/-- A step serves the next call of its thread, or there is nothing to serve. -/
theorem Config.advance_cases (config : Config C R W ι ρ) (spot : Nat) :
    (∃ req c next, config.threads[spot]? = some ⟨req, .call c next⟩ ∧
      config.servedAt machine (.step spot) = some (req, c) ∧
      machine.enabled c config.world = true ∧ config.advance machine spot =
        { world := (machine.serve c config.world).2,
          threads := config.threads.set spot ⟨req, next (machine.serve c config.world).1⟩ }) ∨
    config.servedAt machine (.step spot) = none ∧ config.advance machine spot = config := by
  simp only [servedAt, advance]
  split
  · rename_i req c next found
    -- A thread whose call is not enabled waits, and so does one that has ended.
    by_cases enabled : machine.enabled c config.world = true
    · exact Or.inl ⟨req, c, next, found, if_pos enabled, enabled, if_pos enabled⟩
    · exact Or.inr ⟨if_neg enabled, if_neg enabled⟩
  · exact Or.inr ⟨rfl, rfl⟩

/-- What every admitted event preserves together with the calls served holds after every run. -/
theorem Config.served_preserves (admitted : ι → Prop)
    (keeps : Config C R W ι ρ → List (ι × C) → Prop)
    (step : ∀ config log event, keeps config log → (∀ req, event = .spawn req →
      admitted req) → keeps (config.next machine start event)
        (log ++ (config.servedAt machine event).toList)) (events : List (Event ι)) :
    ∀ config log, keeps config log → (∀ req, .spawn req ∈ events → admitted req) →
      keeps (config.after machine start events) (log ++ config.served machine start events) := by
  -- Induction on the run, with the calls served before it.
  induction events with
  | nil => intro config log kept _; simpa [served, after] using kept
  | cons event rest ih =>
    intro config log kept allowed
    have first := step config log event kept fun req same =>
      allowed req (by simp [same])
    have second := ih _ _ first fun req mem => allowed req (List.mem_cons_of_mem _ mem)
    rw [List.append_assoc] at second
    exact second

/-- Every event of a run meets a condition on the configuration it happens in. -/
def Config.Admits (machine : Machine C R W) (start : ι → Program C R ρ)
    (condition : Config C R W ι ρ → Event ι → Prop) (config : Config C R W ι ρ) :
    List (Event ι) → Prop
  | [] => True
  | event :: rest =>
    condition config event ∧ (config.next machine start event).Admits machine start condition rest

instance instDecidableAdmits (machine : Machine C R W) (start : ι → Program C R ρ)
    (condition : Config C R W ι ρ → Event ι → Prop)
    [decide : ∀ config event, Decidable (condition config event)] :
    ∀ (config : Config C R W ι ρ) (events : List (Event ι)),
      Decidable (config.Admits machine start condition events)
  | _, [] => .isTrue trivial
  | config, event :: rest =>
    haveI := decide config event
    haveI : Decidable ((config.next machine start event).Admits machine start condition rest) :=
      instDecidableAdmits machine start condition _ rest
    inferInstanceAs (Decidable (_ ∧ _))

/-- What every allowed event preserves holds after every allowed run. -/
theorem Config.after_preserves
    (condition : Config C R W ι ρ → Event ι → Prop) (keeps : Config C R W ι ρ → Prop)
    (step : ∀ config event, keeps config → condition config event →
      keeps (config.next machine start event)) (events : List (Event ι)) :
    ∀ config, keeps config → config.Admits machine start condition events →
      keeps (config.after machine start events) := by
  -- Induction on the run, carrying the property from each configuration to the next.
  induction events with
  | nil => intro config kept _; exact kept
  | cons event rest ih =>
    intro config kept admitted
    exact ih _ (step config event kept admitted.1) admitted.2

/--
What threads may assume of each other and must guarantee in return.

The invariant describes single worlds, and the rely relation what other threads may change.
-/
structure Contract (machine : Machine C R W) where
  /-- Holds between any two calls. -/
  holds : W → Prop
  /-- How a world may change between two calls of one thread. -/
  rely : W → W → Prop
  /-- The calls a thread may make in a world. -/
  permits : C → W → Prop
  refl : ∀ w, rely w w
  trans : ∀ {first second third}, rely first second → rely second third → rely first third
  /-- A permitted call keeps the invariant and changes the world only as others may assume. -/
  step : ∀ c w, holds w → permits c w → machine.enabled c w = true →
    holds (machine.serve c w).2 ∧ rely w (machine.serve c w).2

namespace Contract

variable {machine : Machine C R W} {α β : Type}

/--
A program upholds the contract from a world, and its value meets a postcondition.

Other threads may run before every call and after the last one.
-/
def Upholds (contract : Contract machine) : Program C R α → (α → W → Prop) → W → Prop
  | .done value, post, w =>
    ∀ later, contract.rely w later → contract.holds later → post value later
  | .call c next, post, w =>
    ∀ later, contract.rely w later → contract.holds later → machine.enabled c later = true →
      contract.permits c later ∧
        contract.Upholds (next (machine.serve c later).1) post (machine.serve c later).2

variable (contract : Contract machine)

variable {program : Program C R α} {post : α → W → Prop}

/-- A program that upholds the contract still does after other threads have run. -/
theorem Upholds.later {contract : Contract machine} {w after : W}
    (upheld : contract.Upholds program post w) (rely : contract.rely w after) :
    contract.Upholds program post after := by
  cases program <;> exact fun last change => upheld last (contract.trans rely change)

/-- Upholding the contract may be shown in the worlds others can leave. -/
theorem upholds_of_later {contract : Contract machine} {w : W}
    (upheld : ∀ later, contract.rely w later → contract.holds later →
      contract.Upholds program post later) : contract.Upholds program post w := by
  cases program with
  | done value => exact fun last change kept => upheld last change kept last (contract.refl last) kept
  | call c next =>
    exact fun last change kept => upheld last change kept last (contract.refl last) kept

/-- A weaker postcondition is met as well. -/
theorem Upholds.mono {contract : Contract machine} {weaker : α → W → Prop}
    (implies : ∀ value w, post value w → weaker value w) :
    ∀ {w : W}, contract.Upholds program post w → contract.Upholds program weaker w := by
  induction program with
  | done value => exact fun upheld last change kept => implies _ _ (upheld last change kept)
  | call c next ih =>
    intro w upheld last change kept enabled
    obtain ⟨permitted, rest⟩ := upheld last change kept enabled
    exact ⟨permitted, ih _ rest⟩

/-- In sequence, the first program must establish that the second upholds the contract. -/
theorem upholds_bind {contract : Contract machine} {rest : α → Program C R β} {post : β → W → Prop}
    :
    ∀ {w : W},
      contract.Upholds program (fun value after => contract.Upholds (rest value) post after) w →
        contract.Upholds (program >>= rest) post w := by
  induction program with
  | done value => exact fun upheld => upholds_of_later upheld
  | call c next ih =>
    intro w upheld last change kept enabled
    obtain ⟨permitted, after⟩ := upheld last change kept enabled
    exact ⟨permitted, ih _ after⟩

/-- A program run alone keeps the contract and meets its postcondition. -/
theorem Upholds.run {contract : Contract machine} {value : α} {after : W} :
    ∀ {w : W}, contract.Upholds program post w → contract.holds w →
      program.run machine w = some (value, after) →
        contract.holds after ∧ contract.rely w after ∧ post value after := by
  induction program with
  | done result =>
    intro w upheld kept ran
    simp only [Program.run, Option.some.injEq, Prod.mk.injEq] at ran
    obtain ⟨rfl, rfl⟩ := ran
    exact ⟨kept, contract.refl _, upheld _ (contract.refl _) kept⟩
  | call c next ih =>
    intro w upheld kept ran
    simp only [Program.run] at ran
    split at ran
    · rename_i enabled
      -- Alone, a thread meets the world exactly as it left it.
      obtain ⟨permitted, rest⟩ := upheld w (contract.refl _) kept enabled
      obtain ⟨keptNext, change⟩ := contract.step c w kept permitted enabled
      obtain ⟨keptLast, changeLast, met⟩ := ih _ rest keptNext ran
      exact ⟨keptLast, contract.trans change changeLast, met⟩
    · simp at ran

/-- The invariant holds and every thread upholds the contract. -/
def Kept (post : ι → ρ → W → Prop) (config : Config C R W ι ρ) : Prop :=
  contract.holds config.world ∧
    ∀ thread ∈ config.threads, contract.Upholds thread.program (post thread.request) config.world

/-- Serving one call keeps the contract, for its own thread and for all others. -/
theorem Kept.advance {contract : Contract machine} {post : ι → ρ → W → Prop}
    {config : Config C R W ι ρ} (kept : contract.Kept post config) (spot : Nat) :
    contract.Kept post (config.advance machine spot) ∧
      contract.rely config.world (config.advance machine spot).world := by
  rcases config.advance_cases machine spot with
    ⟨req, c, next, found, _, enabled, advanced⟩ | ⟨_, still⟩
  · rw [advanced]
    have own := kept.2 _ (List.mem_of_getElem? found)
    obtain ⟨permitted, rest⟩ := own config.world (contract.refl _) kept.1 enabled
    obtain ⟨holds, change⟩ := contract.step c config.world kept.1 permitted enabled
    refine ⟨⟨holds, fun thread mem => ?_⟩, change⟩
    -- The thread that moved goes on with its own rest, and the others rely on its guarantee.
    rcases List.mem_or_eq_of_mem_set mem with other | moved
    · exact (kept.2 _ other).later change
    · subst moved
      exact rest
  · rw [still]
    exact ⟨kept, contract.refl _⟩

/-- In every interleaving of requests that start within the contract, the contract is kept. -/
theorem kept_after {contract : Contract machine} {start : ι → Program C R ρ}
    {post : ι → ρ → W → Prop} (admitted : ι → Prop)
    (begins : ∀ req w, admitted req → contract.holds w → contract.Upholds (start req) (post req) w)
    (events : List (Event ι)) :
    ∀ config : Config C R W ι ρ, contract.Kept post config →
      (∀ req, .spawn req ∈ events → admitted req) →
        contract.Kept post (config.after machine start events) ∧
          contract.rely config.world (config.after machine start events).world := by
  induction events with
  | nil => exact fun config kept _ => ⟨kept, contract.refl _⟩
  | cons event rest ih =>
    intro config kept allowed
    -- One event either adds a thread that begins within the contract or serves a call.
    have first : contract.Kept post (config.next machine start event) ∧
        contract.rely config.world (config.next machine start event).world := by
      cases event with
      | spawn req =>
        refine ⟨⟨kept.1, fun thread mem => ?_⟩, contract.refl _⟩
        rcases List.mem_append.mp mem with old | fresh
        · exact kept.2 _ old
        · rw [List.mem_singleton] at fresh
          subst fresh
          exact begins req _ (allowed req (by simp)) kept.1
      | step spot => exact kept.advance spot
    obtain ⟨kept, change⟩ := ih _ first.1 fun req mem => allowed req (List.mem_cons_of_mem _ mem)
    exact ⟨kept, contract.trans first.2 change⟩

end Contract

end Process
