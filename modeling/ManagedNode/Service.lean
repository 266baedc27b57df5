import ManagedNode.Boundary.Broadcaster
import ManagedNode.Machine.Trigger

/-!
Serving requests on a machine that is shared behind a lock.

* `Shared`: the machine, and whether a holder of its lock has failed, after which the lock is
  never granted to the services again.
* `Shared.gate`: every request is refused unless the lock is granted and the machine holds a
  broadcaster whose services are up.
* `Shared.changeState`, and four requests that only read: `Shared.currentState`,
  `Shared.allStates`, `Shared.availableTransitions`, `Shared.transitionGraph`.
* `Verdict.ofTrigger`: what is told to whoever asked for a change of state.
-/

namespace ManagedNode

/-- A machine that broadcasts what it does. -/
abbrev BroadcastMachine := Machine Broadcaster (Hub Notice)

/-- The answer to a request to change state. -/
structure Verdict where
  success : Bool
  message : String
  deriving DecidableEq, Repr

namespace Verdict

/-- The answer to a request that changed nothing. -/
def refused (fault : Fault) : Verdict := ⟨false, s!"transition failed: {fault.display}"⟩

/-- The answer to a request, and its records, from the result of triggering and the state
occupied before and after. A fault after which another state is occupied came from announcing
the move: the change itself stands, and the fault is logged. -/
def ofTrigger (result : Except Fault Unit) (before : Option StateId) (after : Option State) :
    Verdict × List Record :=
  let label := (after.map State.label).getD ""
  match result with
  | .ok () => (⟨true, s!"transition ok -> {label}"⟩, [])
  | .error fault =>
      if after.map State.id ≠ before then
        (⟨true, s!"transition ok -> {label}, notification failed: {fault.display}"⟩,
          [fault.report])
      else (refused fault, [])

end Verdict

/-- A machine shared with its services. -/
structure Shared where
  machine : BroadcastMachine
  /-- Has a holder of the lock failed? -/
  poisoned : Bool := false

/-- What a request to change state answers, leaves and shows. -/
structure Changed where
  verdict : Verdict
  shared : Shared
  trace : List Event := []

namespace Shared

variable (s : Shared)

/-- The machine, if it can be locked and serves requests. -/
def gate : Except Fault BroadcastMachine :=
  if s.poisoned then .error .lockPoisoned
  else if s.machine.boundary.any Broadcaster.serving then .ok s.machine
  else .error .notServing

/-- Take a transition from the present state and announce it. -/
def changeState (q : Selector) : Changed :=
  match s.gate with
  | .error fault => { verdict := .refused fault, shared := s }
  | .ok m =>
      let taken := m.request q true
      let (verdict, records) :=
        Verdict.ofTrigger taken.result (m.current?.map State.id) taken.machine.current?
      { verdict
        shared := { s with machine := taken.machine }
        trace := taken.trace ++ records.map Event.wrote }

/-- The state occupied now. -/
def currentState : Except Fault StateDescription := do
  let m ← s.gate
  match m.current? with
  | some state => return state.description
  | none => throw .nothingOccupied

/-- Every registered state. -/
def allStates : Except Fault (List StateDescription) := do
  let m ← s.gate
  return m.topology.states.map State.description

/-- The transitions leaving the state occupied now. -/
def availableTransitions : Except Fault (List TransitionDescription) := do
  let m ← s.gate
  return m.topology.describeAll m.available

/-- Every registered transition. -/
def transitionGraph : Except Fault (List TransitionDescription) := do
  let m ← s.gate
  return m.topology.describeAll m.topology.transitions

end Shared

end ManagedNode
