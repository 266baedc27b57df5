import ManagedNode.Proofs.Service.Agreement

/-!
The requests that only read give one picture.

The transitions on offer are read from the list that the state occupied keeps, the graph from the
list of all transitions, and both leave out whatever cannot be described. In a well-formed topology
nothing is left out, and the two lists tell the same.

* `TransitionDescription.Tells`: a description that tells a transition, with the ids of its ends.
  Transitions that are edges are all told, in their order (`Topology.forall₂_describeAll`).
* `Topology.describeAll_leaving`: the descriptions of the transitions that leave a state are those
  in the graph that start there.
* `Shared.Picture`, `Shared.services_agree`: the answers of all the requests that only read, put
  side by side.
-/

namespace ManagedNode

/-- The description tells the transition, and names its two ends by their ids. -/
structure TransitionDescription.Tells (d : TransitionDescription) (t : Transition) : Prop where
  id_eq : d.id = t.id
  label_eq : d.label = t.label
  ends_eq : t.ends = some ⟨d.start.id, d.goal.id⟩

namespace Topology

variable {m : Topology} {s start goal : State} {t : Transition} {d : TransitionDescription}

/-! ### Edges of a well-formed topology -/

/-- Both ends of an edge are among the registered states. -/
lemma Edge.mem_described (h : m.Edge start t goal) :
    start.description ∈ m.described ∧ goal.description ∈ m.described :=
  ⟨List.mem_map_of_mem (mem_of_state? h.start_eq), List.mem_map_of_mem (mem_of_state? h.goal_eq)⟩

/-- An edge starts at a registered state exactly when its transition is one of those that leave the
state. -/
lemma Edge.start_description_eq_iff (h : m.Edge start t goal) (hm : m.WellFormed)
    (hs : s ∈ m.states) : start.description = s.description ↔ t.start? = some s.id := by
  constructor
  · intro hdescription
    rw [h.start?_eq]
    exact congrArg (fun d => some d.id) hdescription
  · intro hstart
    rw [hm.eq_start h hs hstart]

/-! ### Descriptions of many transitions -/

/-- Of transitions that are all edges, none is left out. -/
lemma forall₂_describeAll {ts : List Transition}
    (hts : ∀ t ∈ ts, ∃ start goal, m.Edge start t goal) :
    List.Forall₂ (fun t d => TransitionDescription.Tells d t) ts (m.describeAll ts) := by
  induction ts with
  | nil => exact .nil
  | cons t ts ih =>
      obtain ⟨⟨start, goal, hedge⟩, hrest⟩ := List.forall_mem_cons.mp hts
      rw [describeAll, List.filterMap_cons_some (describe?_of_edge hedge)]
      exact .cons ⟨rfl, rfl, hedge.ends_eq⟩ (ih hrest)

/-- A description in the graph is that of an edge. -/
lemma exists_edge_of_mem_describeAll (hm : m.WellFormed) (hd : d ∈ m.describeAll m.transitions) :
    ∃ start t goal, m.Edge start t goal ∧ d.start = start.description ∧
      d.goal = goal.description := by
  obtain ⟨t, ht, hdescribe⟩ := List.mem_filterMap.mp hd
  obtain ⟨start, goal, hedge⟩ := hm.exists_edge_of_mem ht
  rw [describe?_of_edge hedge] at hdescribe
  cases hdescribe
  exact ⟨start, t, goal, hedge, rfl, rfl⟩

/-- The descriptions of the transitions that leave a state are those in the graph that start
there. -/
lemma describeAll_leaving (hm : m.WellFormed) (hs : s ∈ m.states) :
    m.describeAll (m.leaving s.id) =
      (m.describeAll m.transitions).filter fun d => d.start = s.description := by
  rw [describeAll, describeAll, leaving, List.filterMap_filter, List.filter_filterMap]
  refine List.filterMap_congr fun t ht => ?_
  obtain ⟨start, goal, hedge⟩ := hm.exists_edge_of_mem ht
  have hstart := hedge.start_description_eq_iff hm hs
  rw [describe?_of_edge hedge]
  by_cases hleaves : t.start? = some s.id
  · simp [hleaves, hstart.mpr hleaves, Option.filter_some]
  · simp [hleaves, mt hstart.mp hleaves, Option.filter_some]

end Topology

/-! ### The answers side by side -/

namespace Shared

variable {s : Shared} {b : Broadcaster} {channel : ChannelId}

/-- What the answers to the requests that only read have to do with the machine and with each
other. -/
structure Picture (s : Shared) (states : List StateDescription)
    (graph available : List TransitionDescription) : Prop where
  /-- Every registered state is listed, in the order of registration. -/
  states_eq : states = s.machine.topology.states.map State.description
  /-- No id is listed twice. -/
  ids_nodup : (states.map StateDescription.id).Nodup
  graph_tells : List.Forall₂ (fun t d => TransitionDescription.Tells d t)
    s.machine.topology.transitions graph
  available_eq : available = graph.filter fun d => s.currentState.toOption = some d.start
  of_occupied : ∀ occupied, s.machine.current? = some occupied →
    s.currentState = .ok occupied.description
  of_unoccupied : s.machine.current? = none →
    s.currentState = .error .nothingOccupied ∧ available = []
  ends_mem : ∀ d ∈ graph, d.start ∈ states ∧ d.goal ∈ states
  currentState_mem : ∀ d, s.currentState = .ok d → d ∈ states

namespace Serves

lemma allStates_eq (h : s.Serves b channel) : s.allStates = .ok s.machine.topology.described := by
  rw [allStates, h.gate_eq]
  rfl

lemma transitionGraph_eq (h : s.Serves b channel) :
    s.transitionGraph = .ok (s.machine.topology.describeAll s.machine.topology.transitions) := by
  rw [transitionGraph, h.gate_eq]
  rfl

lemma currentState_of_none (h : s.Serves b channel) (hs : s.machine.current? = none) :
    s.currentState = .error .nothingOccupied := by
  rw [currentState, h.gate_eq]
  simp only [bind, Except.bind, hs]
  rfl

/-- What is on offer is the part of the graph that starts at the state that is answered. -/
lemma describeAll_available (h : s.Serves b channel) :
    s.machine.topology.describeAll s.machine.available =
      (s.machine.topology.describeAll s.machine.topology.transitions).filter
        fun d => s.currentState.toOption = some d.start := by
  cases hs : s.machine.current? with
  | none =>
      have havailable : s.machine.available = [] := by rw [Machine.available, hs]; rfl
      rw [havailable, h.currentState_of_none hs]
      exact (List.filter_eq_nil_iff.mpr fun d _ => by simp [Except.toOption]).symm
  | some occupied =>
      have hmem : occupied ∈ s.machine.topology.states := Machine.mem_states_of_current? hs
      have havailable : s.machine.available = s.machine.topology.leaving occupied.id := by
        rw [Machine.available, hs, ← h.wellFormed.outgoing_eq occupied hmem]
        rfl
      rw [havailable, Topology.describeAll_leaving h.wellFormed hmem, h.currentState_eq hs]
      refine List.filter_congr fun d _ => ?_
      simp [Except.toOption, eq_comm]

/-- While the services answer, their answers make one picture. -/
lemma picture (h : s.Serves b channel) :
    s.Picture s.machine.topology.described
      (s.machine.topology.describeAll s.machine.topology.transitions)
      (s.machine.topology.describeAll s.machine.available) where
  states_eq := rfl
  ids_nodup := by
    rw [← Topology.ids_eq_map_described]
    exact h.wellFormed.ids_nodup
  graph_tells := Topology.forall₂_describeAll fun t ht => h.wellFormed.exists_edge_of_mem ht
  available_eq := h.describeAll_available
  of_occupied := fun occupied hs => h.currentState_eq hs
  of_unoccupied := by
    intro hs
    refine ⟨h.currentState_of_none hs, ?_⟩
    rw [Machine.available, hs]
    rfl
  ends_mem := by
    intro d hd
    obtain ⟨start, t, goal, hedge, hstart, hgoal⟩ :=
      Topology.exists_edge_of_mem_describeAll h.wellFormed hd
    rw [hstart, hgoal]
    exact hedge.mem_described
  currentState_mem := by
    intro d hd
    cases hs : s.machine.current? with
    | none =>
        rw [h.currentState_of_none hs] at hd
        cases hd
    | some occupied =>
        rw [h.currentState_eq hs] at hd
        cases hd
        exact List.mem_map_of_mem (Machine.mem_states_of_current? hs)

end Serves

/-- **The requests that only read give one picture**, on every reachable machine whose services
answer. -/
theorem services_agree (h : s.machine.Reachable) (hpoisoned : s.poisoned = false)
    (hserving : s.machine.boundary.any Broadcaster.serving = true) :
    ∃ states graph available, s.allStates = .ok states ∧ s.transitionGraph = .ok graph ∧
      s.availableTransitions = .ok available ∧ s.Picture states graph available := by
  obtain ⟨b, channel, hserves⟩ := exists_serves h hpoisoned hserving
  exact ⟨_, _, _, hserves.allStates_eq, hserves.transitionGraph_eq,
    hserves.availableTransitions_eq, hserves.picture⟩

/-- Two states with a loop at the one that is occupied, a way to the other and a way back. -/
theorem services_agree_loop :
    let loop : Transition := { id := 1, label := "again", ends := some ⟨7, 7⟩ }
    let back : Transition := { id := 1, label := "back", ends := some ⟨8, 7⟩ }
    let there : Transition := { id := 2, label := "there", ends := some ⟨7, 8⟩ }
    let m : BroadcastMachine := Machine.run { medium := {} }
      [.bringUp { node := "talker" } { standardStates := false },
        .edit (.register ⟨7, "seven", []⟩), .edit (.connect loop),
        .edit (.register ⟨8, "eight", []⟩), .edit (.connect back), .edit (.connect there),
        .occupy 7]
    let s : Shared := { machine := m }
    s.machine.Reachable ∧ s.poisoned = false ∧
      s.machine.boundary.any Broadcaster.serving = true ∧
      s.availableTransitions = .ok [⟨1, "again", ⟨7, "seven"⟩, ⟨7, "seven"⟩⟩,
        ⟨2, "there", ⟨7, "seven"⟩, ⟨8, "eight"⟩⟩] ∧
      ∃ states graph available, s.allStates = .ok states ∧ s.transitionGraph = .ok graph ∧
        s.availableTransitions = .ok available ∧ s.Picture states graph available := by
  intro loop back there m s
  have h : s.machine.Reachable := by
    refine .perform _ (.perform _ (.perform _ (.perform _ (.perform _ (.perform _
      (.perform _ (.zero {}) ?_) ?_) ?_) ?_) ?_) ?_) ?_
    · rintro b options ⟨⟩
      exact .ofNode _ _
    all_goals exact nofun
  have hpoisoned : s.poisoned = false := rfl
  have hserving : s.machine.boundary.any Broadcaster.serving = true := rfl
  refine ⟨h, hpoisoned, hserving, ?_, ?_⟩
  · rfl
  · exact services_agree h hpoisoned hserving

end Shared

end ManagedNode
