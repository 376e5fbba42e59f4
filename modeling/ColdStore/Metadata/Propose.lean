import ColdStore.Metadata.Raft
import ColdStore.Process.Concurrent

/-!
Proposals of several callers, as one access after the other to what they share.

Other callers may come between any two accesses, and only the state machine has a lock.
-/

namespace ColdStore.Proposing

open Rust Process

/-- One access to the store, or to the state machine and its lock. -/
inductive Access where
  | logEntryCount
  | appendLogEntry (index : Nat) (command : MetadataCommand)
  | lockStateMachine
  | apply (command : MetadataCommand)
  /-- Store the state machine as its holder sees it. -/
  | saveStateMachineSnapshot
  | unlockStateMachine

/-- What an access returns. -/
@[reducible] def Access.Value : Access → Type
  | .logEntryCount => Nat
  | .appendLogEntry _ _ | .saveStateMachineSnapshot => Except String Unit
  | .apply _ => Except Status Unit
  | .lockStateMachine | .unlockStateMachine => Unit

/-- What the storage and the clock do during one access. -/
structure Surroundings where
  faults : StorageFaults := {}
  clock : Nat := 0

/-- The lock after an access. -/
def Access.holding (locked : Bool) : Access → Bool
  | .lockStateMachine => true
  | .unlockStateMachine => false
  | _ => locked

/-- What a caller does, access by access. -/
abbrev Steps (α : Type) := Program Access Access.Value α

def access (what : Access) : Steps what.Value := Program.perform what

/-- Log a command, apply it to the state machine and store the new snapshot. -/
def propose (platform : Platform) (command : MetadataCommand) : Steps (Except String Nat) := do
  let count : Nat ← access .logEntryCount
  let index := count + 1
  let logged : Except String Unit ← access (.appendLogEntry index command)
  match logged with
  | .error error => pure (.error error)
  | .ok _ =>
    -- The lock is held until the call returns, whatever it returns.
    access .lockStateMachine
    let applied : Except Status Unit ← access (.apply command)
    match applied with
    | .error status =>
      access .unlockStateMachine
      pure (.error (platform.displayStatus status))
    | .ok _ =>
      let saved : Except String Unit ← access .saveStateMachineSnapshot
      access .unlockStateMachine
      pure (saved.map fun _ => index)

variable [KeyValueStore]

/-- A node, whether a caller holds the lock, and the number of accesses so far. -/
structure World where
  node : LocalSingleNodeMetadataRaft
  locked : Bool := false
  tick : Nat := 0

/-- What an access does to the node. -/
def Access.serve (platform : Platform) (around : Surroundings)
    (node : LocalSingleNodeMetadataRaft) :
    (access : Access) → access.Value × LocalSingleNodeMetadataRaft
  | .logEntryCount => (node.storage.logEntryCount, node)
  | .appendLogEntry index command =>
    match failing around.faults.appendLog with
    | .error error => (.error error, node)
    | .ok _ =>
      -- Every proposal is logged in the first term.
      (.ok (), { node with storage := node.storage.appendLogEntry platform index 1 command })
  | .apply command =>
    let applied := applyCommand around.clock node.stateMachine command
    (applied.1, { node with stateMachine := applied.2 })
  | .saveStateMachineSnapshot =>
    match failing around.faults.saveSnapshot with
    | .error error => (.error error, node)
    | .ok _ => (.ok (), { node with
        storage := node.storage.saveStateMachineSnapshot platform node.stateMachine })
  | .lockStateMachine | .unlockStateMachine => ((), node)

/-- A node in its surroundings. Only the lock is ever waited for. -/
def machine (platform : Platform) (surroundings : Nat → Surroundings) :
    Machine Access Access.Value World where
  enabled access w := match access with
    | .lockStateMachine => !w.locked
    | _ => true
  serve access w :=
    let served := access.serve platform (surroundings w.tick) w.node
    (served.1, ⟨served.2, access.holding w.locked, w.tick + 1⟩)

/-- Callers at work on one node, each with the command it proposes. -/
abbrev Callers := Config Access Access.Value World MetadataCommand (Except String Nat)

/-- The node before the first caller comes. -/
def atRest (node : LocalSingleNodeMetadataRaft) : Callers := ⟨{ node }, []⟩

/-- What the callers have come to after some events. -/
def after (platform : Platform) (surroundings : Nat → Surroundings)
    (node : LocalSingleNodeMetadataRaft) (events : List (Event MetadataCommand)) : Callers :=
  (atRest node).after (machine platform surroundings) (propose platform) events

section

variable {platform : Platform} {surroundings : Nat → Surroundings} {w : World} {α : Type}

/-- A caller that nobody disturbs goes on with the answer to its access. -/
theorem run_access {what : Access} (rest : what.Value → Steps α)
    (enabled : (machine platform surroundings).enabled what w = true) :
    (access what >>= rest).run (machine platform surroundings) w =
      (rest (what.serve platform (surroundings w.tick) w.node).1).run
        (machine platform surroundings)
        ⟨(what.serve platform (surroundings w.tick) w.node).2, what.holding w.locked,
          w.tick + 1⟩ := by
  show (if (machine platform surroundings).enabled what w = true then _ else none) = _
  rw [if_pos enabled]
  rfl

end

/-- A caller that nobody disturbs proposes as if its accesses were one. -/
theorem run_propose (platform : Platform) (faults : StorageFaults) (clock tick : Nat)
    (node : LocalSingleNodeMetadataRaft) (command : MetadataCommand) :
    ∃ later, (propose platform command).run
        (machine platform fun _ => { faults, clock }) { node, tick }
      = some ((node.propose platform faults clock command).1,
          { node := (node.propose platform faults clock command).2, tick := later }) := by
  simp only [propose, LocalSingleNodeMetadataRaft.propose]
  rw [run_access _ rfl, run_access _ rfl]
  -- Each access can fail or not, and the caller stops at the first that does.
  cases append : faults.appendLog with
  | some error =>
    simp only [Access.serve, failing, append]
    exact ⟨_, rfl⟩
  | none =>
    simp only [Access.serve, failing, append]
    rw [run_access _ rfl, run_access _ rfl]
    rcases applied : applyCommand clock node.stateMachine command with ⟨answer, s⟩
    cases answer with
    | error status =>
      simp only [Access.serve, applied]
      exact ⟨_, rfl⟩
    | ok _ =>
      simp only [Access.serve, applied]
      rw [run_access _ rfl, run_access _ rfl]
      cases save : faults.saveSnapshot with
      | some error =>
        simp only [Access.serve, failing, save]
        exact ⟨_, rfl⟩
      | none =>
        simp only [Access.serve, failing, save]
        exact ⟨_, rfl⟩

end ColdStore.Proposing
