import ManagedNode.Machine.Lifetime
import ManagedNode.Machine.Trigger
import ManagedNode.Proofs.Topology.Edit

/-!
What each operation on a machine can come to, said once.

* `Machine.takes`: when a transition is taken. `Machine.handle_moveTo` says where the handle is
  then.
* `Machine.occupy_cases`, `Machine.loadStandard_cases`: occupying a state without a transition.
* `Machine.Triggered`, `Machine.triggered`: triggering a transition is refused, or moves the
  machine and may tell the boundary.
* `Machine.request_of_none`, `Machine.request_of_miss`, `Machine.request_of_find?`: a request is
  refused, finds nothing, or triggers the first transition asked for, so that it keeps whatever
  triggering keeps (`Machine.request_induction`).
* `Machine.BroughtUp`, `Machine.broughtUp`: the five ways in which bringing a machine up can end.
  `Machine.builds` says when it gets as far as the topology.
-/

namespace ManagedNode

/-- A handle just taken resolves to the state it was taken for. -/
lemma Topology.bind_handle?_resolve? {m : Topology} {id : StateId} :
    (m.handle? id).bind m.resolve? = m.state? id := by
  rw [handle?, state?_eq_bind]
  cases m.position? id <;> simp [resolve?]

namespace Machine

variable {β μ : Type} {m : Machine β μ} {s : State} {t : Transition} {announce : Bool}
  {q : Selector}

/-! ### The ends of a transition -/

lemma endpoint_eq_ok_iff (which : String) {id : Option StateId} :
    m.endpoint t id which = .ok s ↔ id.bind m.topology.state? = some s := by
  rw [endpoint]
  cases id.bind m.topology.state? <;> simp

/-- Both ends are found when the transition has ends and both are registered. -/
lemma endpoints_eq_ok_iff {start goal : State} :
    m.endpoints t = .ok (start, goal) ↔
      t.start?.bind m.topology.state? = some start ∧
        t.goal?.bind m.topology.state? = some goal := by
  rw [endpoints, ← endpoint_eq_ok_iff "start", ← endpoint_eq_ok_iff "goal"]
  cases m.endpoint t t.start? "start" with
  | error fault => simp [bind, Except.bind]
  | ok start' =>
      cases m.endpoint t t.goal? "goal" with
      | error fault => simp [bind, Except.bind]
      | ok goal' => simp [bind, Except.bind, pure, Except.pure]

/-- Can the transition be taken? Both of its ends must be registered and, if it is to be
announced, a boundary must be held. -/
def takes (m : Machine β μ) (t : Transition) (announce : Bool) : Bool :=
  t.start?.any m.topology.registers && t.goal?.any m.topology.registers &&
    (!announce || m.boundary.isSome)

lemma isSome_bind_state? {id : Option StateId} :
    (id.bind m.topology.state?).isSome = id.any m.topology.registers := by
  cases id with
  | none => rfl
  | some i => simp [Topology.registers_eq_isSome]

lemma takes_of_endpoints {start goal : State} (he : m.endpoints t = .ok (start, goal)) :
    m.takes t announce = (!announce || m.boundary.isSome) := by
  obtain ⟨hs, hg⟩ := endpoints_eq_ok_iff.mp he
  rw [takes, ← isSome_bind_state?, ← isSome_bind_state?, hs, hg]
  simp

lemma takes_of_error {fault : Fault} (he : m.endpoints t = .error fault) :
    m.takes t announce = false := by
  rw [takes, ← isSome_bind_state?, ← isSome_bind_state?]
  cases hs : t.start?.bind m.topology.state? with
  | none => simp
  | some start =>
      cases hg : t.goal?.bind m.topology.state? with
      | none => simp
      | some goal =>
          rw [endpoints_eq_ok_iff.mpr ⟨hs, hg⟩] at he
          cases he

/-- The handle of a machine that has moved to the goal of a transition. -/
lemma handle_moveTo {start goal : State} (he : m.endpoints t = .ok (start, goal)) :
    (m.moveTo goal).handle = t.goal?.bind m.topology.handle? := by
  obtain ⟨-, hg⟩ := endpoints_eq_ok_iff.mp he
  obtain ⟨id, hid, hstate⟩ := Option.bind_eq_some_iff.mp hg
  rw [hid, moveTo, Topology.id_of_state? hstate]
  rfl

/-! ### Occupying a state -/

/-- Occupying a registered state changes the handle alone. -/
lemma occupy_cases (m : Machine β μ) (id : StateId) :
    (id ∈ m.topology.ids ∧ m.occupy id = .ok { m with handle := m.topology.handle? id }) ∨
      (id ∉ m.topology.ids ∧ m.occupy id = .error (.stateNotRegistered id)) := by
  rw [occupy]
  cases hp : m.topology.position? id with
  | some i =>
      exact Or.inl ⟨Topology.mem_ids_of_position? hp, by simp [Topology.handle?, hp]⟩
  | none =>
      refine Or.inr ⟨fun hid => ?_, by simp [Topology.handle?, hp]⟩
      obtain ⟨i, hi⟩ := Topology.exists_position? hid
      rw [hp] at hi
      cases hi

/-- Loading the standard lifecycle occupies its initial state, or clears the topology and drops
the handle. Occupying cannot fail, since the initial state is among those just registered. -/
lemma loadStandard_cases (m : Machine β μ) :
    (∃ loaded, m.topology.withStandard = .ok loaded ∧ m.loadStandard =
        (.ok (), { m with
          topology := loaded, handle := loaded.handle? StandardState.initial.id })) ∨
      ∃ fault, m.topology.withStandard = .error fault ∧ m.loadStandard =
        (.error fault, { m with topology := m.topology.clear, handle := none }) := by
  rw [loadStandard]
  rcases m.topology.loadStandard_cases with ⟨loaded, hw, hl⟩ | ⟨fault, hw, hl⟩
  · rcases (m.withTopology loaded).occupy_cases StandardState.initial.id with ⟨-, ho⟩ | ⟨hno, -⟩
    · exact Or.inl ⟨loaded, hw, by simp only [hl, ho]; rfl⟩
    · exact absurd (Topology.initial_mem_of_withStandard hw) hno
  · exact Or.inr ⟨fault, hw, by rw [hl]⟩

/-! ### Triggering -/

variable [Boundary β μ]

/-- What triggering a transition can come to. -/
inductive Triggered (m : Machine β μ) (t : Transition) : Bool → Outcome β μ → Prop
  | refused {announce : Bool} {fault : Fault} (he : m.endpoints t = .error fault) :
      Triggered m t announce (m.refuse fault)
  | unheld {start goal : State} (he : m.endpoints t = .ok (start, goal))
      (hb : m.boundary = none) : Triggered m t true (m.refuse .noBoundary)
  | quiet {start goal : State} (he : m.endpoints t = .ok (start, goal)) :
      Triggered m t false (m.move t goal)
  | announced {start goal : State} {b : β} (he : m.endpoints t = .ok (start, goal))
      (hb : m.boundary = some b) : Triggered m t true (m.moveAnnounced t start goal b)

lemma triggered (m : Machine β μ) (t : Transition) (announce : Bool) :
    Triggered m t announce (m.trigger t announce) := by
  rw [trigger]
  cases he : m.endpoints t with
  | error fault => exact .refused he
  | ok ends =>
      obtain ⟨start, goal⟩ := ends
      cases announce with
      | false => exact .quiet he
      | true =>
          cases hb : m.boundary with
          | none => exact .unheld he hb
          | some b => exact .announced he hb

/-- Triggering leaves the topology and the options alone. -/
lemma Triggered.topology_eq {o : Outcome β μ} (h : Triggered m t announce o) :
    o.machine.topology = m.topology := by
  cases h <;> rfl

/-- A transition that is taken moves the handle to its goal; nothing else moves it. -/
lemma Triggered.handle_eq {o : Outcome β μ} (h : Triggered m t announce o) :
    o.machine.handle =
      if m.takes t announce then t.goal?.bind m.topology.handle? else m.handle := by
  cases h with
  | refused he => simp [takes_of_error he, refuse]
  | unheld he hb => simp [takes_of_endpoints he, hb, refuse]
  | quiet he =>
      rw [takes_of_endpoints he, if_pos (by simp)]
      exact handle_moveTo he
  | announced he hb =>
      rw [takes_of_endpoints he, if_pos (by simp [hb])]
      exact handle_moveTo he

/-! ### Requests -/

/-- Without a present state a request is refused. -/
lemma request_of_none (hs : m.current? = none) :
    m.request q announce = m.refuse .noCurrentState := by
  rw [request, hs]

/-- A request for which nothing leaves the present state changes nothing, and writes that down. -/
lemma request_of_miss (hs : m.current? = some s) (hfind : s.find? q = none) :
    m.request q announce =
      { result := .error (s.missFault q), machine := m, trace := [.wrote (s.missRecord q)] } := by
  rw [request, hs]
  simp only [State.lookup, hfind]
  rfl

/-- A request triggers the first transition that it asks for. -/
lemma request_of_find? (hs : m.current? = some s) (hfind : s.find? q = some t) :
    m.request q announce = m.trigger t announce := by
  rw [request, hs]
  simp only [State.lookup, hfind]
  rfl

/-- The machine after a request. -/
lemma machine_request (m : Machine β μ) (q : Selector) (announce : Bool) :
    (m.request q announce).machine =
      match m.current?.bind fun s => s.find? q with
      | none => m
      | some t => (m.trigger t announce).machine := by
  cases hs : m.current? with
  | none =>
      rw [request_of_none hs]
      rfl
  | some s =>
      cases hfind : s.find? q with
      | none => simp [request_of_miss hs hfind, hfind]
      | some t => simp [request_of_find? hs hfind, hfind]

/-- What holds of a machine, and holds after every transition that is triggered, holds after every
request. -/
lemma request_induction {P : Machine β μ → Prop} (h : P m)
    (htrigger : ∀ t, P (m.trigger t announce).machine) : P (m.request q announce).machine := by
  rw [machine_request]
  split
  · exact h
  · exact htrigger _

/-! ### The beginning of a life -/

/-- What building what the options ask for can come to. -/
inductive Furnished (m : Machine β μ) (b : β) : Outcome β μ → Prop
  | bare (hbare : m.options.standardStates = false) :
      Furnished m b { result := .ok (), machine := m }
  | loaded {topology : Topology} (hstandard : m.options.standardStates = true)
      (hload : m.topology.withStandard = .ok topology) :
      Furnished m b
        { result := .ok ()
          machine := { m with
            topology, handle := topology.handle? StandardState.initial.id } }
  | abandoned {fault : Fault} (hstandard : m.options.standardStates = true)
      (hload : m.topology.withStandard = .error fault) :
      Furnished m b
        ({ m with topology := m.topology.clear, handle := none }.abandon b fault)

lemma furnished (m : Machine β μ) (b : β) : Furnished m b (m.furnish b) := by
  rw [furnish]
  cases hs : m.options.standardStates with
  | false => exact .bare hs
  | true =>
      rcases m.loadStandard_cases with ⟨topology, hw, hl⟩ | ⟨fault, hw, hl⟩
      · rw [hl]
        exact .loaded hs hw
      · rw [hl]
        exact .abandoned hs hw

/-- What bringing a machine up can come to. -/
inductive BroughtUp (m : Machine β μ) (b : β) (options : Options) : Outcome β μ → Prop
  | alreadyUp (hb : m.boundary.isSome = true) : BroughtUp m b options (m.refuse .alreadyUp)
  | boundaryFailed {reply : Reply β μ} {fault : Fault} (hb : m.boundary = none)
      (hreply : Boundary.respond (.bringUp options.mode) b m.medium = reply)
      (hfault : reply.result = .error fault) :
      BroughtUp m b options
        { result := .error fault
          machine := { m with medium := reply.medium }
          trace := [reply.event (.bringUp options.mode)] }
  | furnished {reply : Reply β μ} {o : Outcome β μ} (hb : m.boundary = none)
      (hreply : Boundary.respond (.bringUp options.mode) b m.medium = reply)
      (hok : reply.result = .ok ())
      (hfurnished : Furnished (m.holding reply options) reply.boundary o) :
      BroughtUp m b options { o with trace := reply.event (.bringUp options.mode) :: o.trace }

lemma broughtUp (m : Machine β μ) (b : β) (options : Options) :
    BroughtUp m b options (m.bringUp b options) := by
  rw [bringUp]
  by_cases hheld : m.boundary.isSome = true
  · rw [if_pos hheld]
    exact .alreadyUp hheld
  · have hb : m.boundary = none := by simpa using hheld
    rw [if_neg hheld]
    cases hr : (Boundary.respond (.bringUp options.mode) b m.medium).result with
    | error fault => simpa only [hr] using BroughtUp.boundaryFailed hb rfl hr
    | ok _ => simpa only [hr] using BroughtUp.furnished hb rfl hr (Machine.furnished _ _)

/-- Does bringing up get as far as loading the standard lifecycle? -/
def builds (m : Machine β μ) (b : β) (options : Options) : Bool :=
  m.boundary.isNone && options.standardStates &&
    (Boundary.respond (.bringUp options.mode) b m.medium).result.isOk

/-! ### The end of a life -/

/-- Taking a machine down clears its topology and drops its handle. -/
lemma tearDown_eq (m : Machine β μ) :
    m.tearDown.machine.topology = m.topology.clear ∧ m.tearDown.machine.handle = none := by
  rw [tearDown]
  cases m.boundary <;> exact ⟨rfl, rfl⟩

/-- A machine that was taken down holds no boundary. -/
lemma boundary_tearDown (m : Machine β μ) : m.tearDown.machine.boundary = none := by
  rw [tearDown]
  cases m.boundary <;> rfl

end Machine

end ManagedNode
