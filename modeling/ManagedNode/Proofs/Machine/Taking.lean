import ManagedNode.Boundary.Broadcaster
import ManagedNode.Proofs.Machine.Request

/-!
A transition is taken in full, or not at all.

Triggering looks for the ends of the transition first and for a boundary next. Where something is
missing, nothing happens. Where nothing is, the machine moves before the boundary is told of it, so
that whatever the boundary answers cannot take the move back.

* `Outcome.Refuses`, `Outcome.Applies`: the two ways to end, by all that can be seen of them.
* `Machine.Decides`: which of the two it is, by the ends of the transition and the boundary held. It
  is shown of every machine and every transition (`Machine.decides_trigger`).
* `Machine.Answers`: a request triggers the first registered transition that leaves the state
  occupied and is asked for. The ends of this one are always found (`Machine.answers_request`).
* `Machine.taken_in_full`: both, on every reachable machine.
-/

namespace ManagedNode

variable {β μ : Type}

/-! ### The two ways to end -/

namespace Outcome

/-- Nothing came of the operation: its result is a fault of this kind, the machine is as it was, and
no boundary was called. -/
structure Refuses (o : Outcome β μ) (m : Machine β μ) (kind : FaultKind) : Prop where
  result_eq : ∃ fault, o.result = .error fault ∧ fault.kind = kind
  machine_eq : o.machine = m
  calls_eq : Event.calls o.trace = []

/-- The machine moved to `goal`, and kept its topology and its options. -/
structure Applies [Boundary β μ] (o : Outcome β μ) (m : Machine β μ) (start goal : State)
    (announce : Bool) : Prop where
  current?_eq : o.machine.current? = some goal
  topology_eq : o.machine.topology = m.topology
  options_eq : o.machine.options = m.options
  /-- Without an announcement no boundary was called. -/
  of_quiet : announce = false →
    o.result = .ok () ∧ o.machine.boundary = m.boundary ∧ o.machine.medium = m.medium ∧
      Event.calls o.trace = []
  /-- The boundary held was told of the move once, and the result is what it answered. -/
  of_announced : announce = true →
    ∃ told, m.callHeld (.announce start goal) = some told ∧ o.result = told.result ∧
      o.machine.boundary = told.machine.boundary ∧ o.machine.medium = told.machine.medium ∧
      Event.calls o.trace = [.announce start goal]

end Outcome

namespace Topology

/-- The transition has a start and a goal, and these states are registered for them. -/
structure Resolves (m : Topology) (t : Transition) (start goal : State) : Prop where
  start_eq : t.start?.bind m.state? = some start
  goal_eq : t.goal?.bind m.state? = some goal

/-- The state found for the goal is found under its own id. -/
lemma Resolves.state?_goal {m : Topology} {t : Transition} {start goal : State}
    (h : m.Resolves t start goal) : m.state? goal.id = some goal := by
  obtain ⟨id, -, hgoal⟩ := Option.bind_eq_some_iff.mp h.goal_eq
  rwa [id_of_state? hgoal]

/-- The ends of an edge are registered. -/
lemma Edge.resolves {m : Topology} {t : Transition} {start goal : State}
    (h : m.Edge start t goal) : m.Resolves t start goal := by
  constructor
  · rw [Transition.start?, h.ends_eq]
    exact h.start_eq
  · rw [Transition.goal?, h.ends_eq]
    exact h.goal_eq

end Topology

namespace Machine

variable {m : Machine β μ} {s start goal : State} {t : Transition} {q : Selector}
  {announce : Bool} {fault : Fault} {kind : FaultKind}

/-! ### Triggering -/

lemma resolves_iff : m.topology.Resolves t start goal ↔ m.endpoints t = .ok (start, goal) := by
  rw [endpoints_eq_ok_iff]
  exact ⟨fun h => ⟨h.start_eq, h.goal_eq⟩, fun h => ⟨h.1, h.2⟩⟩

/-- An end that is not registered is a bad argument. -/
lemma kind_of_endpoint {id : Option StateId} {which : String}
    (he : m.endpoint t id which = .error fault) : fault.kind = .invalidArgument := by
  rw [endpoint] at he
  cases hid : id.bind m.topology.state? with
  | some s => simp [hid] at he
  | none =>
      rw [hid] at he
      cases he
      rfl

/-- A transition whose ends are not both registered is a bad argument. -/
lemma kind_of_endpoints (he : m.endpoints t = .error fault) : fault.kind = .invalidArgument := by
  rw [endpoints] at he
  cases hs : m.endpoint t t.start? "start" with
  | error fault' =>
      rw [hs] at he
      cases he
      exact kind_of_endpoint hs
  | ok start =>
      cases hg : m.endpoint t t.goal? "goal" with
      | error fault' =>
          rw [hs, hg] at he
          cases he
          exact kind_of_endpoint hg
      | ok goal =>
          rw [hs, hg] at he
          cases he

lemma refuses_refuse (hkind : fault.kind = kind) : (m.refuse fault).Refuses m kind :=
  ⟨⟨fault, rfl, hkind⟩, rfl, rfl⟩

variable [Boundary β μ]

/-- What a call of the boundary held comes to. -/
lemma callHeld_of_boundary {b : β} (hb : m.boundary = some b) (call : Call) :
    m.callHeld call = some
      (let reply := Boundary.respond call b m.medium
      { result := reply.result
        machine := { m with boundary := some reply.boundary, medium := reply.medium }
        trace := [reply.event call] }) := by
  rw [callHeld, hb]
  rfl

/-- How a transition that is triggered is decided on, by its ends and by the boundary held. -/
structure Decides (m : Machine β μ) (t : Transition) (announce : Bool) (o : Outcome β μ) :
    Prop where
  of_unregistered :
    t.start?.bind m.topology.state? = none ∨ t.goal?.bind m.topology.state? = none →
      o.Refuses m .invalidArgument
  of_unheld : ∀ start goal, m.topology.Resolves t start goal → announce = true →
    m.boundary = none → o.Refuses m .invalidState
  of_held : ∀ start goal, m.topology.Resolves t start goal →
    (announce = true → m.boundary.isSome = true) → o.Applies m start goal announce

omit [Boundary β μ] in
lemma registered_of_resolves (h : m.topology.Resolves t start goal) :
    ¬(t.start?.bind m.topology.state? = none ∨ t.goal?.bind m.topology.state? = none) := by
  simp [h.start_eq, h.goal_eq]

/-- A move that nobody is told of is applied. -/
lemma applies_move (h : m.topology.Resolves t start goal) :
    (m.move t goal).Applies m start goal false where
  current?_eq := current?_moveTo h.state?_goal
  topology_eq := rfl
  options_eq := rfl
  of_quiet := fun _ => ⟨rfl, rfl, rfl, rfl⟩
  of_announced := nofun

/-- A move that the boundary is told of is applied, whatever the boundary answers. -/
lemma applies_moveAnnounced {b : β} (h : m.topology.Resolves t start goal)
    (hb : m.boundary = some b) : (m.moveAnnounced t start goal b).Applies m start goal true where
  current?_eq := current?_moveTo h.state?_goal
  topology_eq := rfl
  options_eq := rfl
  of_quiet := nofun
  of_announced := by
    intro _
    have hcalls : Event.calls (m.moveAnnounced t start goal b).trace = [.announce start goal] := by
      simp only [moveAnnounced]
      cases (Boundary.respond (.announce start goal) b m.medium).result <;> rfl
    exact ⟨_, callHeld_of_boundary hb _, rfl, rfl, rfl, hcalls⟩

/-- Every transition is decided on by its ends and the boundary held. -/
lemma decides_trigger (m : Machine β μ) (t : Transition) (announce : Bool) :
    m.Decides t announce (m.trigger t announce) := by
  have ho := m.triggered t announce
  generalize m.trigger t announce = o at ho ⊢
  cases ho with
  | refused he =>
      have hnot : ∀ start goal, ¬m.topology.Resolves t start goal := by simp [resolves_iff, he]
      exact
        { of_unregistered := fun _ => refuses_refuse (kind_of_endpoints he)
          of_unheld := fun _ _ h => absurd h (hnot _ _)
          of_held := fun _ _ h => absurd h (hnot _ _) }
  | unheld he hb =>
      exact
        { of_unregistered := fun h => absurd h (registered_of_resolves (resolves_iff.mpr he))
          of_unheld := fun _ _ _ _ _ => refuses_refuse rfl
          of_held := fun _ _ _ h => by simp [hb] at h }
  | quiet he =>
      have hends := resolves_iff.mpr he
      refine ⟨fun h => absurd h (registered_of_resolves hends), nofun, fun start' goal' h _ => ?_⟩
      obtain ⟨rfl, rfl⟩ : _ = start' ∧ _ = goal' := by simpa [he] using resolves_iff.mp h
      exact applies_move h
  | announced he hb =>
      have hends := resolves_iff.mpr he
      refine ⟨fun h => absurd h (registered_of_resolves hends), fun _ _ _ _ h => ?_,
        fun start' goal' h _ => ?_⟩
      · simp [hb] at h
      · obtain ⟨rfl, rfl⟩ : _ = start' ∧ _ = goal' := by simpa [he] using resolves_iff.mp h
        exact applies_moveAnnounced h hb

/-! ### Requests -/

/-- How a request is answered, by the transitions that are registered to leave the state occupied. -/
structure Answers (m : Machine β μ) (q : Selector) (announce : Bool) (o : Outcome β μ) : Prop where
  of_unoccupied : m.current? = none → o.Refuses m .invalidArgument
  of_miss : ∀ s, m.current? = some s → (m.topology.leaving s.id).find? q.selects = none →
    o.Refuses m .invalidArgument
  /-- The first transition that is asked for is triggered, and both of its ends are registered. -/
  of_found : ∀ s t, m.current? = some s → (m.topology.leaving s.id).find? q.selects = some t →
    o = m.trigger t announce ∧ ∃ goal, m.topology.Edge s t goal ∧
      if announce = true ∧ m.boundary = none then o.Refuses m .invalidState
      else o.Applies m s goal announce

omit [Boundary β μ] in
/-- What the state occupied keeps is searched as what is registered would be. -/
lemma find?_leaving (hwf : m.topology.WellFormed) (hs : m.current? = some s) (q : Selector) :
    (m.topology.leaving s.id).find? q.selects = s.find? q := by
  rw [State.find?, hwf.outgoing_eq s (mem_states_of_current? hs)]

/-- An edge that is triggered can lack nothing but a boundary. -/
lemma Decides.of_edge {o : Outcome β μ} (h : m.Decides t announce o)
    (hedge : m.topology.Edge s t goal) :
    if announce = true ∧ m.boundary = none then o.Refuses m .invalidState
    else o.Applies m s goal announce := by
  split_ifs with hnone
  · exact h.of_unheld s goal hedge.resolves hnone.1 hnone.2
  · refine h.of_held s goal hedge.resolves fun hannounce => ?_
    exact Option.isSome_iff_ne_none.mpr fun hb => hnone ⟨hannounce, hb⟩

/-- A request triggers the first edge that it asks for, or nothing comes of it. -/
lemma answers_request (hwf : m.topology.WellFormed) (q : Selector) (announce : Bool) :
    m.Answers q announce (m.request q announce) where
  of_unoccupied := by
    intro hs
    rw [request_of_none hs]
    exact refuses_refuse rfl
  of_miss := by
    intro s hs hmiss
    rw [find?_leaving hwf hs] at hmiss
    rw [request_of_miss hs hmiss]
    exact ⟨⟨_, rfl, s.kind_missFault q⟩, rfl, rfl⟩
  of_found := by
    intro s t hs hfound
    rw [find?_leaving hwf hs] at hfound
    obtain ⟨goal, hedge⟩ := exists_edge_of_find? hwf hs hfound
    rw [request_of_find? hs hfound]
    exact ⟨rfl, goal, hedge, (m.decides_trigger t announce).of_edge hedge⟩

/-- **A transition is taken in full, or not at all**, on every reachable machine, whatever its
boundary answers. -/
theorem taken_in_full (h : m.Reachable) :
    (∀ t announce, m.Decides t announce (m.trigger t announce)) ∧
      ∀ q announce, m.Answers q announce (m.request q announce) :=
  ⟨m.decides_trigger, answers_request h.wellFormed⟩

/-- A broadcaster that never came up is put in the place of the one that is held, and cannot announce
the way to the other state, which is registered before a loop of the same name. The machine gets
there all the same. -/
theorem taken_in_full_unannounced :
    let there : Transition := { id := 1, label := "go", ends := some ⟨7, 8⟩ }
    let loop : Transition := { id := 1, label := "go", ends := some ⟨7, 7⟩ }
    let up : Machine Broadcaster (Hub Notice) := Machine.run { medium := {} }
      [.bringUp { node := "talker" } { standardStates := false },
        .edit (.register ⟨7, "seven", []⟩), .edit (.register ⟨8, "eight", []⟩),
        .edit (.connect there), .edit (.connect loop), .occupy 7]
    let m : Machine Broadcaster (Hub Notice) :=
      { up with boundary := up.boundary.map fun _ => { node := "talker" } }
    m.Reachable ∧
      (m.request (.byLabel "go") true).result =
        .error (.broadcasterDown "publish transition event") ∧
      (m.request (.byLabel "go") true).machine.current? = some ⟨8, "eight", []⟩ ∧
      (∀ t announce, m.Decides t announce (m.trigger t announce)) ∧
      ∀ q announce, m.Answers q announce (m.request q announce) := by
  intro there loop up m
  have hup : up.Reachable := (Reachable.zero _).run _
  have h : m.Reachable := hup.disturb _ _
  exact ⟨h, rfl, rfl, taken_in_full h⟩

end Machine

end ManagedNode
