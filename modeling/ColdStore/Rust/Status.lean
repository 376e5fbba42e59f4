import Mathlib.Init

/-! The status a remote procedure fails with. -/

namespace Rust

/-- Octets, as vectors and slices of the source hold them. -/
abbrev Bytes := List UInt8

/-- The kinds of failure a caller can tell apart. -/
inductive Code where
  | cancelled
  | unknown
  | invalidArgument
  | deadlineExceeded
  | notFound
  | alreadyExists
  | permissionDenied
  | resourceExhausted
  | failedPrecondition
  | aborted
  | outOfRange
  | unimplemented
  | internal
  | unavailable
  | dataLoss
  | unauthenticated
  deriving DecidableEq

/-- A failure is its kind and a text for people. -/
structure Status where
  code : Code
  message : String
  deriving DecidableEq

namespace Status

variable (message : String)

def invalidArgument : Status := ⟨.invalidArgument, message⟩

def notFound : Status := ⟨.notFound, message⟩

def alreadyExists : Status := ⟨.alreadyExists, message⟩

def resourceExhausted : Status := ⟨.resourceExhausted, message⟩

def failedPrecondition : Status := ⟨.failedPrecondition, message⟩

def unimplemented : Status := ⟨.unimplemented, message⟩

def internal : Status := ⟨.internal, message⟩

def unavailable : Status := ⟨.unavailable, message⟩

def dataLoss : Status := ⟨.dataLoss, message⟩

end Status

/-- The value of an option, or the failure to report when it is missing. -/
def okOr {ε α : Type} (error : ε) : Option α → Except ε α
  | some value => .ok value
  | none => .error error

/-- Refuse with a failure unless a condition holds. -/
def ensure {ε : Type} (condition : Bool) (error : ε) : Except ε Unit :=
  if condition then .ok () else .error error

variable {ε α : Type}

variable (error : ε)

@[simp] theorem okOr_eq_ok (option : Option α) (value : α) :
    okOr error option = .ok value ↔ option = some value := by
  cases option <;> simp [okOr]

@[simp] theorem ensure_eq_ok (condition : Bool) (error : ε) (value : Unit) :
    ensure condition error = .ok value ↔ condition = true := by
  cases condition <;> simp [ensure]

theorem okOr_some (value : α) : okOr error (some value) = .ok value := rfl

theorem ensure_true : ensure true error = .ok () := rfl

theorem ensure_false : ensure false error = .error error := rfl

/-- A step that has succeeded hands its value on. -/
theorem ok_bind {β : Type} (value : α) (rest : α → Except ε β) :
    ((Except.ok value : Except ε α) >>= rest) = rest value := rfl

/-- A step that has failed ends the sequence. -/
theorem error_bind {β : Type} (rest : α → Except ε β) :
    ((Except.error error : Except ε α) >>= rest) = .error error := rfl

/-- A sequence of fallible steps succeeds when each of them does. -/
theorem bind_eq_ok {β : Type} {first : Except ε α} {rest : α → Except ε β} {value : β} :
    (first >>= rest) = .ok value ↔ ∃ middle, first = .ok middle ∧ rest middle = .ok value := by
  cases first <;> simp [Bind.bind, Except.bind]

end Rust
