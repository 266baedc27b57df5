import ManagedNode.State
import ManagedNode.Standard

/-!
The names under which the ids and labels of the standard lifecycle are published.

Every name is built from the label of what it names, in capitals: a state is either primary or
a transition state; a transition is either asked for from outside, or is the outcome of the work
of the transition state that it leaves.

* `Standard.stateIds`, `Standard.transitionIds`: names with ids, in the order of the ids.
* `Standard.stateLabels`, `Standard.transitionLabels`: names with labels.
-/

namespace ManagedNode

namespace StandardState

/-- The label in capitals. -/
def capitals (s : StandardState) : String := s.label.toUpper

/-- The published name of the id of a state. -/
def publishedName (s : StandardState) : String :=
  if s.id < State.firstTransitionStateId then s!"PRIMARY_STATE_{s.capitals}"
  else s!"TRANSITION_STATE_{s.capitals}"

/-- The work that is done in a transition state; a primary state does none and has its own
name here. -/
def work : StandardState → String
  | configuring => "CONFIGURE"
  | cleaningUp => "CLEANUP"
  | shuttingDown => "SHUTDOWN"
  | activating => "ACTIVATE"
  | deactivating => "DEACTIVATE"
  | errorProcessing => "ERROR"
  | s => s.capitals

end StandardState

/-- Every verb, those asked for from outside first. -/
def Verb.all : List Verb :=
  [configure, cleanUp, activate, deactivate, shutDown, success, failure, breakdown]

namespace Standard

/-- The published name of the id of a transition. Three transitions shut a node down, and are
told apart by where they start. -/
def Row.publishedName (r : Row) : String :=
  match r.verb with
  | .success => s!"TRANSITION_ON_{r.start.work}_SUCCESS"
  | .failure => s!"TRANSITION_ON_{r.start.work}_FAILURE"
  | .breakdown => s!"TRANSITION_ON_{r.start.work}_ERROR"
  | .shutDown => s!"TRANSITION_{r.start.capitals}_SHUTDOWN"
  | verb => s!"TRANSITION_{verb.label.toUpper}"

/-- The published names and ids of the states. -/
def stateIds : List (String × StateId) :=
  StandardState.all.map fun s => (s.publishedName, s.id)

/-- The published names and ids of the transitions. -/
def transitionIds : List (String × TransitionId) :=
  (rows.mergeSort fun r r' => r.id ≤ r'.id).map fun r => (r.publishedName, r.id)

/-- The published names and texts of the labels of states. -/
def stateLabels : List (String × String) :=
  StandardState.all.map fun s => (s.capitals, s.label)

/-- The published names and texts of the labels of transitions. -/
def transitionLabels : List (String × String) :=
  Verb.all.map fun v => (v.label.toUpper, v.label)

end Standard

end ManagedNode
