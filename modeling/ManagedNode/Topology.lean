import ManagedNode.State

/-!
Topologies: the registered states and transitions of one lifecycle graph.

* `Topology.register`, `Topology.connect`: add a state, or a transition between two registered
  states. Both check everything first; a refusal gives no topology, so that the old one stands.
* `Topology.state?`, `Topology.stateLabelled?`, `Topology.transition?`, `Topology.position?`:
  lookups, each answering with the first match in the order of registration.
* `Topology.clear`: an empty topology of the next generation. Positions of states are good for
  one generation only, since states are never removed singly.
-/

namespace ManagedNode

/-- A lifecycle graph: states and transitions in the order of their registration. Each
transition is also kept in the list of the state that it leaves. -/
structure Topology where
  states : List State := []
  transitions : List Transition := []
  /-- How often the topology has been cleared. This is a number without a bound: a counter of 64
  bits, which comes round after `2 ^ 64` clearings, counts the same up to then. -/
  generation : Nat := 0
  deriving DecidableEq, Repr, Inhabited

namespace Topology

variable (m : Topology)

/-! ### Lookups -/

/-- The registered state with this id. -/
def state? (id : StateId) : Option State := m.states.find? fun s => s.id == id

/-- The first registered state with this label. -/
def stateLabelled? (label : String) : Option State := m.states.find? fun s => s.label == label

/-- The first registered transition with this id. -/
def transition? (id : TransitionId) : Option Transition :=
  m.transitions.find? fun t => t.id == id

/-- Where the state with this id stands in the order of registration. -/
def position? (id : StateId) : Option Nat := m.states.findIdx? fun s => s.id == id

/-- The state at a position. -/
def stateAt? (position : Nat) : Option State := m.states[position]?

/-- Is a state with this id registered? -/
def registers (id : StateId) : Bool := m.states.any fun s => s.id == id

/-- Is nothing registered at all? -/
def isEmpty : Bool := m.states.isEmpty && m.transitions.isEmpty

/-! ### Registration -/

/-- Register a state under its id and label. Transitions that the given value carries are left
behind: only `connect` adds them. -/
def register (s : State) : Except Fault Topology :=
  if m.registers s.id then .error (.stateAlreadyRegistered s.id)
  else do
    let fresh ← State.named s.id s.label
    return { m with states := m.states ++ [fresh] }

/-- Register a transition between two registered states: at the end of all transitions, and at
the end of those that leave its start, which is changed at its position. -/
def connect (t : Transition) : Except Fault Topology :=
  match t.ends with
  | none => .error (.noEndpoints t.id)
  | some ends =>
      match m.position? ends.start with
      | none => .error (.stateNotRegistered ends.start)
      | some position =>
          if !m.registers ends.goal then .error (.stateNotRegistered ends.goal)
          else .ok { m with
            states := m.states.modify position fun s => s.leaveBy t
            transitions := m.transitions ++ [t] }

/-- Drop every state and every transition, and with them the positions taken so far. -/
def clear : Topology := { generation := m.generation + 1 }

/-! ### What the operations leave -/

theorem registers_eq_isSome (id : StateId) : m.registers id = (m.state? id).isSome := by
  rw [Bool.eq_iff_iff, registers, state?, List.any_eq_true, List.find?_isSome]

@[simp] theorem states_clear : m.clear.states = [] := rfl

@[simp] theorem transitions_clear : m.clear.transitions = [] := rfl

@[simp] theorem generation_clear : m.clear.generation = m.generation + 1 := rfl

variable {m}

/-- Registering a state appends it, with no transitions, and touches nothing else. -/
theorem register_eq_ok {s : State} {m' : Topology} (h : m.register s = .ok m') :
    m' = { m with states := m.states ++ [{ id := s.id, label := s.label }] } := by
  rw [register] at h
  split at h
  · cases h
  · rw [State.named] at h
    split at h
    · cases h
    · cases h; rfl

/-- Registering a transition changes the state that it leaves at its position, and appends the
transition to all transitions; both of its ends were registered. -/
theorem connect_eq_ok {t : Transition} {m' : Topology} (h : m.connect t = .ok m') :
    ∃ ends position, t.ends = some ends ∧ m.position? ends.start = some position ∧
      m.registers ends.goal = true ∧
      m' = { m with
        states := m.states.modify position fun s => s.leaveBy t
        transitions := m.transitions ++ [t] } := by
  rw [connect] at h
  split at h
  · cases h
  · rename_i ends hends
    split at h
    · cases h
    · rename_i position hposition
      split at h
      · cases h
      · rename_i hgoal
        cases h
        exact ⟨ends, position, hends, hposition, by simpa using hgoal, rfl⟩

end Topology

end ManagedNode
