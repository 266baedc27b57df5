import ManagedNode.Transition
import ManagedNode.Record

/-!
States: the named nodes of a lifecycle graph, each with the transitions that leave it.

* `State.named`: a state with a label and no transitions.
* `State.find?`: the first transition leaving the state that a `Selector` asks for;
  `State.lookup` also writes a record when there is none, since a miss is mostly a bad request
  that somebody should see.
-/

namespace ManagedNode

/-- A node of a lifecycle graph. A registered state keeps a copy of every transition that
leaves it, so that a lookup from the present state scans these alone. -/
structure State where
  id : StateId := 0
  label : String := ""
  /-- The transitions leaving the state, in the order of their registration. -/
  outgoing : List Transition := []
  deriving DecidableEq, Repr, Inhabited

namespace State

/-- The state that stands for nothing: number zero, no label, no transitions. -/
def cleared : State := {}

/-- The state with this id and label, if the label is not empty; nothing leaves it yet. -/
def named (id : StateId) (label : String) : Except Fault State :=
  if label = "" then .error (.emptyStateLabel id) else .ok { id := id, label := label }

/-- The first id that belongs to a transition state. -/
def firstTransitionStateId : StateId := 10

/-- A primary state is stable: a node rests in it until it is asked to leave. -/
def isPrimary (s : State) : Bool := s.id < firstTransitionStateId

/-- Nothing leaves a terminal state. -/
def isTerminal (s : State) : Bool := s.outgoing.isEmpty

/-- The state with one more transition leaving it. -/
def leaveBy (s : State) (t : Transition) : State :=
  { s with outgoing := s.outgoing ++ [t] }

/-- The first transition leaving the state that is asked for. -/
def find? (s : State) (q : Selector) : Option Transition := s.outgoing.find? q.selects

/-- The record of a request that no transition leaving the state answers. -/
def missRecord (s : State) : Selector → Record
  | .byId id =>
      ⟨.warn, "no transition with this id leaves the state",
        [("state", .text s.label), ("transition_id", .count id.toNat)]⟩
  | .byLabel label =>
      ⟨.warn, "no transition with this label leaves the state",
        [("state", .text s.label), ("transition_label", .text label)]⟩

/-- What `find?` finds, and the records of the search: one for a miss, none for a hit. -/
def lookup (s : State) (q : Selector) : Option Transition × List Record :=
  match s.find? q with
  | some t => (some t, [])
  | none => (none, [s.missRecord q])

@[simp] theorem named_empty (id : StateId) : named id "" = .error (.emptyStateLabel id) := rfl

theorem named_of_ne {label : String} (h : label ≠ "") (id : StateId) :
    named id label = .ok { id := id, label := label } := if_neg h

@[simp] theorem id_leaveBy (s : State) (t : Transition) : (s.leaveBy t).id = s.id := rfl

@[simp] theorem label_leaveBy (s : State) (t : Transition) : (s.leaveBy t).label = s.label := rfl

@[simp] theorem outgoing_leaveBy (s : State) (t : Transition) :
    (s.leaveBy t).outgoing = s.outgoing ++ [t] := rfl

end State

end ManagedNode
