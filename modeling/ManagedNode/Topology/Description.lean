import ManagedNode.Topology

/-!
Descriptions: states and transitions as they are told to others, by id and label alone.

* `StateDescription`, `TransitionDescription`.
* `Topology.describe?`: the description of a transition whose two ends are registered.
-/

namespace ManagedNode

/-- A state as told to others. -/
structure StateDescription where
  id : StateId
  label : String
  deriving DecidableEq, Repr

/-- A transition as told to others, with its ends resolved. -/
structure TransitionDescription where
  id : TransitionId
  label : String
  start : StateDescription
  goal : StateDescription
  deriving DecidableEq, Repr

/-- The description of a state. -/
def State.description (s : State) : StateDescription := ⟨s.id, s.label⟩

namespace Topology

/-- The description of a transition, if both of its ends are registered here. -/
def describe? (m : Topology) (t : Transition) : Option TransitionDescription := do
  let ends ← t.ends
  let start ← m.state? ends.start
  let goal ← m.state? ends.goal
  return ⟨t.id, t.label, start.description, goal.description⟩

/-- The descriptions of those transitions in a list that can be described. -/
def describeAll (m : Topology) (ts : List Transition) : List TransitionDescription :=
  ts.filterMap m.describe?

end Topology

end ManagedNode
