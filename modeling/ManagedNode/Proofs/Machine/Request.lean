import ManagedNode.Proofs.Machine.Run

/-!
Requests follow edges.

* `Machine.endpoints_of_edge`: both ends of an edge of the topology are found, and are the states
  that it joins.
* `Machine.exists_edge_of_find?`: what a request finds in the state occupied is an edge from that
  state. A request can therefore fail only because nothing is found, or because there is no
  boundary to announce through.
* `Machine.current?_moveTo`, `Machine.current?_withTopology`: the state occupied after a move, and
  after the topology has grown.
-/

namespace ManagedNode

/-- The fault of a request that nothing answers is one of a bad argument. -/
lemma State.kind_missFault (s : State) (q : Selector) :
    (s.missFault q).kind = .invalidArgument := by
  cases q <;> rfl

namespace Machine

variable {β μ : Type} {m : Machine β μ} {s goal : State} {t : Transition} {q : Selector}

/-- The state occupied is a registered one. -/
lemma mem_states_of_current? (h : m.current? = some s) : s ∈ m.topology.states := by
  obtain ⟨handle, -, hresolve⟩ := Option.bind_eq_some_iff.mp h
  rw [Topology.resolve?] at hresolve
  split_ifs at hresolve
  exact Topology.mem_of_stateAt? hresolve

/-- A machine that has moved to a registered state occupies it. -/
lemma current?_moveTo (hgoal : m.topology.state? goal.id = some goal) :
    (m.moveTo goal).current? = some goal := by
  rw [current?, moveTo, Topology.bind_handle?_resolve?, hgoal]

/-- While the topology is extended, the state occupied keeps its description. -/
lemma current?_withTopology {topology : Topology} (hext : m.topology.Extends topology)
    (h : m.current? = some s) :
    ∃ s', (m.withTopology topology).current? = some s' ∧ s'.description = s.description := by
  obtain ⟨handle, hhandle, hresolve⟩ := Option.bind_eq_some_iff.mp h
  rw [Topology.resolve?] at hresolve
  split_ifs at hresolve with hgeneration
  obtain ⟨s', hs', hdescription⟩ := hext.stateAt? hresolve
  refine ⟨s', ?_, hdescription⟩
  rw [current?, withTopology, hhandle, Option.bind_some, Topology.resolve?,
    if_pos (hgeneration.trans hext.generation_eq.symm), hs']

/-- The ends of an edge are the two states that it joins. -/
lemma endpoints_of_edge (h : m.topology.Edge s t goal) : m.endpoints t = .ok (s, goal) := by
  rw [endpoints_eq_ok_iff, Transition.start?, Transition.goal?, h.ends_eq]
  exact ⟨h.start_eq, h.goal_eq⟩

/-- What a request finds in the state occupied is an edge from it. -/
lemma exists_edge_of_find? (hwf : m.topology.WellFormed) (hs : m.current? = some s)
    (hfind : s.find? q = some t) : ∃ goal, m.topology.Edge s t goal :=
  hwf.exists_edge (mem_states_of_current? hs) (List.mem_of_find?_eq_some hfind)

variable [Boundary β μ]

/-- Triggering an edge with an announcement moves the machine along it, whenever a boundary is
held. -/
lemma trigger_of_edge {b : β} (h : m.topology.Edge s t goal) (hb : m.boundary = some b) :
    m.trigger t true = m.moveAnnounced t s goal b := by
  rw [trigger, endpoints_of_edge h, hb]

end Machine

end ManagedNode
