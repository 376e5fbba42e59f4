import Mathlib.Control.Basic

/-! Programs as trees of calls, and what they do on a machine that answers the calls. -/

namespace Process

/-- A program has finished with a value, or waits for the answer to one call. -/
inductive Program (C : Type) (R : C → Type) (α : Type) where
  /-- Nothing is left to do. -/
  | done (value : α)
  /-- The answer to the call decides how the program goes on. -/
  | call (c : C) (next : R c → Program C R α)

/-- A machine serves calls one at a time, some of them only in worlds that allow it. -/
structure Machine (C : Type) (R : C → Type) (W : Type) where
  /-- A call that is not enabled blocks its caller. -/
  enabled : C → W → Bool
  /-- The answer to a call and the world it leaves. -/
  serve : (c : C) → W → R c × W

namespace Program

variable {C : Type} {R : C → Type} {W : Type} {α β γ : Type}

/-- Run one program and hand its value to the next. -/
protected def bind : Program C R α → (α → Program C R β) → Program C R β
  | .done value, rest => rest value
  | .call c next, rest => .call c fun answer => (next answer).bind rest

instance : Monad (Program C R) where
  pure := .done
  bind := .bind

/-- Make one call and return its answer. -/
def perform (c : C) : Program C R (R c) := .call c .done

/-- A program that only returns a value is done. -/
@[simp] theorem pure_eq (value : α) : (pure value : Program C R α) = .done value := rfl

/-- After a program that is done, the rest goes on with its value. -/
@[simp] theorem bind_done (value : α) (rest : α → Program C R β) :
    (Program.done value >>= rest) = rest value := rfl

/-- A call before the rest is still the first call. -/
@[simp] theorem bind_call (c : C) (next : R c → Program C R α) (rest : α → Program C R β) :
    (Program.call c next >>= rest) = .call c fun answer => next answer >>= rest := rfl

/-- Returning the value of a program changes nothing. -/
private theorem bind_done_right (program : Program C R α) : program.bind .done = program := by
  induction program with
  | done value => rfl
  | call c next ih => simp [Program.bind, ih]

/-- Three programs in sequence may be grouped either way. -/
private theorem bind_regroup (program : Program C R α) (first : α → Program C R β)
    (second : β → Program C R γ) :
    (program.bind first).bind second = program.bind fun value => (first value).bind second := by
  induction program with
  | done value => rfl
  | call c next ih => simp [Program.bind, ih]

instance : LawfulMonad (Program C R) :=
  LawfulMonad.mk' (Program C R) bind_done_right (fun _ _ => rfl) bind_regroup

/-- Run a program alone: its value and the world it leaves, unless one of its calls blocks. -/
def run (machine : Machine C R W) : Program C R α → W → Option (α × W)
  | .done value, w => some (value, w)
  | .call c next, w =>
    if machine.enabled c w then
      (next (machine.serve c w).1).run machine (machine.serve c w).2
    else none

/-- Running two programs in sequence runs the second in the world the first left. -/
theorem run_bind (machine : Machine C R W) (program : Program C R α)
    (rest : α → Program C R β) (w : W) :
    (program >>= rest).run machine w =
      (program.run machine w).bind fun result => (rest result.1).run machine result.2 := by
  induction program generalizing w with
  | done value => rfl
  | call c next ih =>
    simp only [bind_call, run]
    split
    · exact ih _ _
    · rfl

/-- A first program that finished is replaced by the value and world it finished with. -/
theorem run_bind_of (machine : Machine C R W) {program : Program C R α} {rest : α → Program C R β}
    {w between : W} {value : α} (first : program.run machine w = some (value, between)) :
    (program >>= rest).run machine w = (rest value).run machine between := by
  rw [run_bind, first]
  rfl

end Program

end Process
