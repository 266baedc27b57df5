import ManagedNode.Machine
import ManagedNode.Text.Quoted

/-!
The summary of a machine on one line: the state occupied, the options, how much is registered,
and whether a boundary is held.
-/

namespace ManagedNode

/-- The word for a truth value. -/
def truthWord (b : Bool) : String := if b then "true" else "false"

/-- The options on one line. -/
def Options.summary (o : Options) : String :=
  s!"StateMachineOptions \x7b enable_com_interface: {truthWord o.services}, " ++
    s!"initialize_default_states: {truthWord o.standardStates} \x7d"

/-- The label of the state occupied, in quotes, or the word for none. -/
def Machine.currentSummary {β μ : Type} (m : Machine β μ) : String :=
  match m.current? with
  | none => "None"
  | some s => s!"Some({Text.Quoted.encode s.label})"

/-- The machine on one line. -/
def Machine.summary {β μ : Type} (m : Machine β μ) : String :=
  s!"StateMachine \x7b current_state: {m.currentSummary}, options: {m.options.summary}, " ++
    s!"states: {m.topology.states.length}, transitions: {m.topology.transitions.length}, " ++
    s!"com_interface: {truthWord m.boundary.isSome} \x7d"

end ManagedNode
