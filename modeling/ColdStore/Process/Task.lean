import ColdStore.Process.Concurrent

/-! Programs that may fail: the calls they can make, and rules for what they do. -/

namespace Process

variable {C : Type} {R : C → Type} {W ε δ α β : Type}

namespace Program

/-- Every call a program can ever make is allowed, whatever answers it gets. -/
def Only (allowed : C → Prop) : Program C R α → Prop
  | .done _ => True
  | .call c next => allowed c ∧ ∀ answer, (next answer).Only allowed

variable {allowed : C → Prop}

/-- A single call is the only one. -/
theorem only_perform {c : C} (admitted : allowed c) :
    (perform c : Program C R (R c)).Only allowed := ⟨admitted, fun _ => trivial⟩

/-- A sequence of programs makes the calls of its parts. -/
theorem only_bind {program : Program C R α} {rest : α → Program C R β}
    (first : program.Only allowed) (second : ∀ value, (rest value).Only allowed) :
    (program >>= rest).Only allowed := by
  induction program with
  | done value => exact second value
  | call c next ih => exact ⟨first.1, fun answer => ih answer (first.2 answer)⟩

/-- More calls may be allowed. -/
theorem Only.mono {wider : C → Prop} {program : Program C R α} (only : program.Only allowed)
    (implies : ∀ c, allowed c → wider c) : program.Only wider := by
  induction program with
  | done value => trivial
  | call c next ih => exact ⟨implies c only.1, fun answer => ih answer (only.2 answer)⟩

end Program

section Fallible

variable {task : ExceptT ε (Program C R) α} {rest : α → ExceptT ε (Program C R) β}

variable {allowed : C → Prop}

/-- A sequence of programs that may fail makes the calls of its parts. -/
theorem only_try (first : task.run.Only allowed) (second : ∀ value, (rest value).run.Only allowed) :
    (task >>= rest).run.Only allowed := by
  rw [ExceptT.run_bind]
  refine Program.only_bind first fun result => ?_
  cases result with
  | ok value => exact second value
  | error failure => trivial

/-- A program that cannot fail makes its own calls inside one that may. -/
theorem only_lift {program : Program C R α} (first : program.Only allowed) :
    (ExceptT.lift program : ExceptT ε (Program C R) α).run.Only allowed := by
  rw [ExceptT.run_lift]
  exact Program.only_bind first fun _ => trivial

end Fallible

namespace Contract

variable {machine : Machine C R W} {contract : Contract machine} {w : W}

/-- What a program ends with is reached through changes others may assume. -/
theorem Upholds.reached {program : Program C R α} {post : α → W → Prop} :
    ∀ {w : W}, contract.Upholds program post w →
      contract.Upholds program
        (fun value after => contract.rely w after ∧ contract.holds after ∧ post value after)
        w := by
  induction program with
  | done value => exact fun upheld later change kept => ⟨change, kept, upheld later change kept⟩
  | call c next ih =>
    intro w upheld later change kept enabled
    obtain ⟨permitted, rest⟩ := upheld later change kept enabled
    have step := (contract.step c later kept permitted enabled).2
    refine ⟨permitted, (ih _ rest).mono fun value after met => ⟨?_, met.2⟩⟩
    exact contract.trans change (contract.trans step met.1)

variable {program : Program C R α}

/-- In sequence, the rest may assume what the first program ends with. -/
theorem upholds_seq {rest : α → Program C R β} {middle : α → W → Prop} {post : β → W → Prop}
    (first : contract.Upholds program middle w)
    (second : ∀ value later, contract.rely w later → contract.holds later →
      middle value later → contract.Upholds (rest value) post later) :
    contract.Upholds (program >>= rest) post w :=
  upholds_bind (first.reached.mono fun value after met => second value after met.1 met.2.1 met.2.2)

/-- Changing the value of a program changes what its postcondition is asked about. -/
theorem upholds_map {change : α → β} {post : β → W → Prop} :
    ∀ {w : W}, contract.Upholds program (fun value after => post (change value) after) w →
      contract.Upholds (program >>= fun value => .done (change value)) post w := by
  induction program with
  | done value => exact fun upheld => upheld
  | call c next ih =>
    intro w upheld later rely kept enabled
    obtain ⟨permitted, after⟩ := upheld later rely kept enabled
    exact ⟨permitted, ih _ after⟩

/-- A program whose calls are permitted in every world upholds the contract. -/
theorem upholds_of_only {allowed : C → Prop}
    (permits : ∀ c w, allowed c → contract.holds w → contract.permits c w) :
    ∀ {w : W}, program.Only allowed → contract.Upholds program (fun _ _ => True) w := by
  induction program with
  | done value => exact fun _ _ _ _ => trivial
  | call c next ih =>
    intro w only later rely kept enabled
    exact ⟨permits c later only.1 kept, ih _ (only.2 _)⟩

/-- A program that may fail upholds the contract, and its value meets a postcondition. -/
def Secures (contract : Contract machine) (task : ExceptT ε (Program C R) α)
    (post : α → W → Prop) (w : W) : Prop :=
  contract.Upholds task.run (fun result after => ∀ value, result = .ok value → post value after) w

/-- A program that may fail upholds the contract, whatever its value. -/
abbrev Secured (contract : Contract machine) (task : ExceptT ε (Program C R) α) (w : W) : Prop :=
  contract.Secures task (fun _ _ => True) w

variable {post : α → W → Prop}

/-- A value is secured if it meets the postcondition whatever others do before it is returned. -/
theorem secures_pure {value : α}
    (met : ∀ later, contract.rely w later → contract.holds later → post value later) :
    contract.Secures (pure value : ExceptT ε (Program C R) α) post w := by
  rintro later change kept _ ⟨⟩
  exact met later change kept

/-- Returning a value upholds every contract. -/
theorem secured_pure {value : α} : contract.Secured (pure value : ExceptT ε (Program C R) α) w :=
  secures_pure fun _ _ _ => trivial

/-- A failure owes nothing to the postcondition. -/
theorem secures_throw {failure : ε} :
    contract.Secures (throw failure : ExceptT ε (Program C R) α) post w := by
  rintro later change kept _ ⟨⟩

variable {task : ExceptT ε (Program C R) α}

/-- In sequence, the rest may assume what the first task secures. -/
theorem secures_bind {rest : α → ExceptT ε (Program C R) β} {middle : α → W → Prop}
    {post : β → W → Prop} (first : contract.Secures task middle w)
    (second : ∀ value later, contract.rely w later → contract.holds later →
      middle value later → contract.Secures (rest value) post later) :
    contract.Secures (task >>= rest) post w := by
  rw [Secures, ExceptT.run_bind]
  refine upholds_seq first fun result after change kept met => ?_
  cases result with
  | ok value => exact second value after change kept (met value rfl)
  | error failure =>
    rintro later _ _ _ ⟨⟩

/-- What a task secures may be weakened. -/
theorem Secures.mono {weaker : α → W → Prop} (secured : contract.Secures task post w)
    (implies : ∀ value w, post value w → weaker value w) : contract.Secures task weaker w :=
  Upholds.mono (fun _ _ met value same => implies _ _ (met value same)) secured

/-- A program that cannot fail secures its postcondition inside one that may. -/
theorem secures_lift (upheld : contract.Upholds program post w) :
    contract.Secures (ExceptT.lift program : ExceptT ε (Program C R) α) post w := by
  rw [Secures, ExceptT.run_lift]
  refine upholds_map (upheld.mono fun value after met => ?_)
  rintro _ ⟨⟩
  exact met

/-- Rewriting its failures does not change what a task secures. -/
theorem secures_adapt {change : ε → δ} (secured : contract.Secures task post w) :
    contract.Secures (ExceptT.adapt change task) post w := by
  refine upholds_map (Upholds.mono (fun result after met => ?_) secured)
  intro value same
  cases result with
  | ok found =>
    cases same
    exact met _ rfl
  | error failure => cases same

end Contract

end Process
