import ColdStore.Process.Task

/-! Programs run alone: what they achieve, and rules to show it. -/

namespace Process

variable {C : Type} {R : C → Type} {W ε δ α β : Type} {machine : Machine C R W} {w : W}

namespace Program

/-- Run alone, a program comes to its end, and its value and world meet a postcondition. -/
def Achieves (machine : Machine C R W) : Program C R α → (α → W → Prop) → W → Prop
  | .done value, post, w => post value w
  | .call c next, post, w =>
    machine.enabled c w = true ∧
      (next (machine.serve c w).1).Achieves machine post (machine.serve c w).2

variable {program : Program C R α} {post : α → W → Prop}

/-- What a program achieves is what its run ends with. -/
theorem achieves_iff_run :
    ∀ {w : W}, program.Achieves machine post w ↔
      ∃ value after, program.run machine w = some (value, after) ∧ post value after := by
  induction program with
  | done value =>
    intro w
    constructor
    · exact fun met => ⟨value, w, rfl, met⟩
    · rintro ⟨_, _, ⟨⟩, met⟩
      exact met
  | call c next ih =>
    intro w
    simp only [Achieves, run, ih]
    -- A call that is not enabled runs to nothing and achieves nothing.
    by_cases enabled : machine.enabled c w = true <;> simp [enabled]

/-- A run has one end, and what is achieved is achieved there. -/
theorem Achieves.of_run {value : α} {after : W} (achieved : program.Achieves machine post w)
    (ran : program.run machine w = some (value, after)) : post value after := by
  obtain ⟨_, _, again, met⟩ := achieves_iff_run.mp achieved
  rw [ran, Option.some.injEq, Prod.mk.injEq] at again
  obtain ⟨rfl, rfl⟩ := again
  exact met

/-- What is achieved may be weakened. -/
theorem Achieves.mono {weaker : α → W → Prop} (achieved : program.Achieves machine post w)
    (implies : ∀ value after, post value after → weaker value after) :
    program.Achieves machine weaker w := by
  rw [achieves_iff_run] at achieved ⊢
  obtain ⟨value, after, ran, met⟩ := achieved
  exact ⟨value, after, ran, implies value after met⟩

/-- What is achieved in two ways is achieved at once, since a run has one end. -/
theorem Achieves.and {also : α → W → Prop} (achieved : program.Achieves machine post w)
    (again : program.Achieves machine also w) :
    program.Achieves machine (fun value after => post value after ∧ also value after) w := by
  rw [achieves_iff_run] at achieved ⊢
  obtain ⟨value, after, ran, met⟩ := achieved
  exact ⟨value, after, ran, met, again.of_run ran⟩

/-- In sequence, the second program starts from what the first one ends with. -/
theorem achieves_bind {rest : α → Program C R β} {middle : α → W → Prop} {post : β → W → Prop}
    (first : program.Achieves machine middle w)
    (second : ∀ value after, middle value after → (rest value).Achieves machine post after) :
    (program >>= rest).Achieves machine post w := by
  rw [achieves_iff_run] at first ⊢
  obtain ⟨value, after, ran, met⟩ := first
  rw [run_bind_of machine ran]
  exact achieves_iff_run.mp (second value after met)

/-- A single call achieves what its answer and the world after it meet. -/
theorem achieves_perform {c : C} {post : R c → W → Prop} (enabled : machine.enabled c w = true)
    (met : post (machine.serve c w).1 (machine.serve c w).2) :
    (perform c).Achieves machine post w := ⟨enabled, met⟩

/-- A program whose calls never block comes to its end, and keeps what each of them keeps. -/
theorem Only.achieves {allowed : C → Prop} {holds : W → Prop}
    (enabled : ∀ c w, allowed c → machine.enabled c w = true)
    (keeps : ∀ c w, allowed c → holds w → holds (machine.serve c w).2)
    (only : program.Only allowed) :
    ∀ {w : W}, holds w → program.Achieves machine (fun _ after => holds after) w := by
  induction program with
  | done value => exact fun held => held
  | call c next ih =>
    intro w held
    exact ⟨enabled c w only.1, ih _ (only.2 _) (keeps c w only.1 held)⟩

end Program

open Program

/-- Run alone, a program that may fail succeeds, and its value and world meet a postcondition. -/
def Succeeds (machine : Machine C R W) (task : ExceptT ε (Program C R) α) (post : α → W → Prop)
    (w : W) : Prop := task.run.Achieves machine
    (fun result after => ∃ value, result = .ok value ∧ post value after) w

variable {post : α → W → Prop}

/-- A task that only returns a value succeeds with it. -/
theorem succeeds_pure {value : α} (met : post value w) :
    Succeeds machine (pure value : ExceptT ε (Program C R) α) post w := ⟨value, rfl, met⟩

variable {task : ExceptT ε (Program C R) α}

variable {rest : α → ExceptT ε (Program C R) β}

/-- In sequence, the rest starts from what the first task ends with. -/
theorem succeeds_bind {middle : α → W → Prop} {post : β → W → Prop}
    (first : Succeeds machine task middle w)
    (second : ∀ value after, middle value after → Succeeds machine (rest value) post after) :
    Succeeds machine (task >>= rest) post w := by
  rw [Succeeds, ExceptT.run_bind]
  refine achieves_bind first fun result after met => ?_
  obtain ⟨value, rfl, met⟩ := met
  exact second value after met

/-- In sequence, the failure of the first task is the failure of both. -/
theorem achieves_try {middle : Except ε α → W → Prop} {post : Except ε β → W → Prop}
    (first : task.run.Achieves machine middle w)
    (second : ∀ value after, middle (.ok value) after → (rest value).run.Achieves machine post after)
    (failed : ∀ failure after, middle (.error failure) after → post (.error failure) after) :
    (task >>= rest).run.Achieves machine post w := by
  rw [ExceptT.run_bind]
  refine achieves_bind first fun result after met => ?_
  cases result with
  | ok value => exact second value after met
  | error failure => exact failed failure after met

/-- A first task that succeeds leaves what both achieve to the rest. -/
theorem achieves_after {middle : α → W → Prop} {post : Except ε β → W → Prop}
    (first : Succeeds machine task middle w)
    (second : ∀ value after, middle value after → (rest value).run.Achieves machine post after) :
    (task >>= rest).run.Achieves machine post w := by
  refine achieves_try first (fun value after met => ?_) fun failure after met => ?_
  · obtain ⟨_, ⟨⟩, met⟩ := met
    exact second value after met
  · obtain ⟨_, other, _⟩ := met
    cases other

/-- What a task succeeds with may be weakened. -/
theorem Succeeds.mono {weaker : α → W → Prop} (succeeds : Succeeds machine task post w)
    (implies : ∀ value after, post value after → weaker value after) :
    Succeeds machine task weaker w := Achieves.mono succeeds fun _ _ met =>
    let ⟨value, same, met⟩ := met
    ⟨value, same, implies value _ met⟩

/-- A task that succeeds has one value. -/
theorem Succeeds.value_unique {first second : α}
    (left : Succeeds machine task (fun value _ => value = first) w)
    (right : Succeeds machine task (fun value _ => value = second) w) : first = second := by
  obtain ⟨_, _, ran, value, rfl, rfl⟩ := achieves_iff_run.mp left
  obtain ⟨other, same, rfl⟩ := Achieves.of_run right ran
  exact Except.ok.inj same

/-- A program that cannot fail succeeds inside one that may. -/
theorem succeeds_lift {program : Program C R α} (achieved : program.Achieves machine post w) :
    Succeeds machine (ExceptT.lift program : ExceptT ε (Program C R) α) post w := by
  rw [Succeeds, ExceptT.run_lift]
  exact achieves_bind achieved fun value _ met => ⟨value, rfl, met⟩

/-- Rewriting its failures does not keep a task from succeeding. -/
theorem succeeds_adapt {change : ε → δ} (succeeds : Succeeds machine task post w) :
    Succeeds machine (ExceptT.adapt change task) post w := achieves_bind succeeds fun _ _ met =>
    let ⟨value, same, met⟩ := met
    ⟨value, by rw [same]; rfl, met⟩

/-- Run alone, a program that may fail comes to its end and fails. -/
def Fails (machine : Machine C R W) (task : ExceptT ε (Program C R) α) (w : W) : Prop :=
  task.run.Achieves machine (fun result _ => ∃ failure, result = .error failure) w

/-- A task that fails is the failure of everything it begins. -/
theorem Fails.bind (fails : Fails machine task w) : Fails machine (task >>= rest) w :=
  achieves_try fails (fun _ _ ok => nomatch ok) fun failure _ _ => ⟨failure, rfl⟩

namespace Contract

variable {contract : Contract machine}

/-- Alone, a program that upholds a contract keeps it on the way to what it achieves. -/
theorem Upholds.achieves {program : Program C R α} {post goal : α → W → Prop}
    (upheld : contract.Upholds program post w) (kept : contract.holds w)
    (achieved : program.Achieves machine goal w) :
    program.Achieves machine (fun value after => goal value after ∧ contract.holds after) w := by
  rw [achieves_iff_run] at achieved ⊢
  obtain ⟨value, after, ran, met⟩ := achieved
  exact ⟨value, after, ran, met, (upheld.run kept ran).1⟩

/-- Alone, a task that secures a contract keeps it on the way to its success. -/
theorem Secures.succeeds {task : ExceptT ε (Program C R) α} {post goal : α → W → Prop}
    (secured : contract.Secures task post w) (kept : contract.holds w)
    (succeeds : Succeeds machine task goal w) :
    Succeeds machine task (fun value after => goal value after ∧ contract.holds after) w :=
  (Upholds.achieves secured kept succeeds).mono fun _ _ ⟨⟨value, same, met⟩, held⟩ =>
    ⟨value, same, met, held⟩

end Contract

end Process
