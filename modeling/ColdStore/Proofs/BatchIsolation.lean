import ColdStore.Proofs.Rearchive
import ColdStore.Scheduler.Claims

/-! One object of an archive batch beside the others: what can keep it from being archived. -/

namespace ColdStore.Scheduler

open Rust Process Program

section

variable {svc : CacheService} {env : Nat → Moment}

end

variable [Sha256]

section

variable {svc : CacheService} {env : Nat → Moment} {w begun middle locked : World}

variable {wrote : WriteEffect} {lines : List StagingKeyEntry} {line : StagingKeyEntry}

/-- One more object may be worked on after a pass. -/
theorem Pass.concat {s : SchedulerState} {after : World} (pass : Pass wrote s lines w middle)
    (step : Taken s middle line ∧ Idle middle after ∨ ¬ Taken s middle line ∧
      Treated wrote line middle after ∧ after.schedulers = middle.schedulers) :
    Pass wrote s (lines ++ [line]) w after := by
  induction pass with
  | nil w =>
    obtain ⟨active, idle⟩ | ⟨_, treated, locks⟩ := step
    · exact .busy active idle (.nil _)
    · exact .treated treated locks (.nil _)
  | busy active idle pass ih => exact .busy active idle (ih step)
  | treated treated locks pass ih => exact .treated treated locks (ih step)

section

variable (calm : Calm env)

include calm

end

section

variable {client : TapeArchiveClient} {limit : Nat} {earlier later : List StagingKeyEntry}
  {entry : StagingKeyEntry} {obj : ObjectMetadata} {data : Bytes}

variable (calm : Calm env)

include calm

end

end

omit [Sha256]

end ColdStore.Scheduler
