import ManagedNode.Proofs.Topology.Invariant
import ManagedNode.Proofs.Topology.Order

/-!
What is registered, and what is refused without a trace.

A state needs a free id and a label, a transition needs two ends that are registered. Where several
things are wrong at once, the first of them in a fixed order is the fault that is told: an id that is
taken before a label that is missing, a start before a goal.

* `Topology.Declined`: a registration that came to nothing, with what its fault says.
* `Topology.DecidesState`, `Topology.DecidesTransition`: how a registration is decided, by what is
  registered already, and what an accepted one changes.
* `Topology.registration_decided`: every state and every transition is decided on in this way, in
  every reachable topology. Only there do distinct ids make sure that a transition goes to the list
  of one state (`Topology.connect_of_ends`).
-/

namespace ManagedNode

namespace Topology

variable {m : Topology} {s : State} {t : Transition} {id start goal : StateId}

/-! ### States -/

/-- An id that is taken is refused, whether or not there is a label. -/
lemma register_of_taken (hid : s.id ∈ m.ids) :
    m.register s = .error (.stateAlreadyRegistered s.id) := if_pos (registers_iff.mpr hid)

/-- A state without a label is refused, if its id is free. -/
lemma register_of_unlabelled (hid : s.id ∉ m.ids) (hlabel : s.label = "") :
    m.register s = .error (.emptyStateLabel s.id) := by
  rw [register, if_neg (mt registers_iff.mp hid), hlabel, State.named_empty]
  rfl

/-! ### Transitions -/

lemma position?_eq_none (hid : id ∉ m.ids) : m.position? id = none := by
  rw [← Option.not_isSome_iff_eq_none, isSome_position?]
  exact hid

lemma connect_of_cleared (hends : t.ends = none) : m.connect t = .error (.noEndpoints t.id) := by
  rw [connect, hends]

/-- A start that is not registered is named, whether or not the goal is registered. -/
lemma connect_of_start (hends : t.ends = some ⟨start, goal⟩) (hstart : start ∉ m.ids) :
    m.connect t = .error (.stateNotRegistered start) := by
  rw [connect, hends]
  simp only [position?_eq_none hstart]

/-- A goal that is not registered is named, if the start is registered. -/
lemma connect_of_goal (hends : t.ends = some ⟨start, goal⟩) (hstart : start ∈ m.ids)
    (hgoal : goal ∉ m.ids) : m.connect t = .error (.stateNotRegistered goal) := by
  obtain ⟨position, hposition⟩ := exists_position? hstart
  have hnot : m.registers goal = false := by simpa using mt registers_iff.mp hgoal
  rw [connect, hends]
  simp only [hposition, hnot]
  rfl

/-! ### Decisions -/

/-- The registration came to nothing: its result is a fault of this kind that carries this payload,
and the topology is as it was, with every list and its generation. -/
structure Declined (m : Topology) (kind : FaultKind) (payload : Payload)
    (r : Except Fault Unit × Topology) : Prop where
  result_eq : ∃ fault, r.1 = .error fault ∧ fault.kind = kind ∧ fault.payload = payload
  topology_eq : r.2 = m

/-- How the registration of a state is decided. -/
structure DecidesState (m : Topology) (s : State) (r : Except Fault Unit × Topology) : Prop where
  result_eq_ok_iff : r.1 = .ok () ↔ s.id ∉ m.ids ∧ s.label ≠ ""
  /-- The id and the label go after all states; transitions that the value carries do not. -/
  of_ok : r.1 = .ok () →
    r.2 = { m with states := m.states ++ [{ id := s.id, label := s.label, outgoing := [] }] }
  of_taken : s.id ∈ m.ids → m.Declined .stateAlreadyRegistered (.state s.id) r
  of_unlabelled : s.id ∉ m.ids → s.label = "" → m.Declined .invalidArgument .nothing r
  of_error : ∀ fault, r.1 = .error fault → r.2 = m

/-- How the registration of a transition is decided. -/
structure DecidesTransition (m : Topology) (t : Transition) (r : Except Fault Unit × Topology) :
    Prop where
  result_eq_ok_iff : r.1 = .ok () ↔
    ∃ start goal, t.ends = some ⟨start, goal⟩ ∧ start ∈ m.ids ∧ goal ∈ m.ids
  /-- The transition goes after all transitions, and after those of the state where it starts. -/
  of_ok : r.1 = .ok () → r.2 = { m with
    states := m.states.map fun s => if t.start? = some s.id then s.leaveBy t else s
    transitions := m.transitions ++ [t] }
  of_cleared : t.ends = none → m.Declined .invalidArgument .nothing r
  of_start : ∀ start goal, t.ends = some ⟨start, goal⟩ → start ∉ m.ids →
    m.Declined .stateNotRegistered (.state start) r
  of_goal : ∀ start goal, t.ends = some ⟨start, goal⟩ → start ∈ m.ids → goal ∉ m.ids →
    m.Declined .stateNotRegistered (.state goal) r
  of_error : ∀ fault, r.1 = .error fault → r.2 = m

/-- A fault settles on the topology as it was. -/
lemma declined_settle (m : Topology) (fault : Fault) :
    m.Declined fault.kind fault.payload (m.settle (.error fault)) := ⟨⟨fault, rfl, rfl, rfl⟩, rfl⟩

lemma topology_settle {r : Except Fault Topology} :
    ∀ fault, (m.settle r).1 = .error fault → (m.settle r).2 = m := by
  intro fault hfault
  cases r with
  | ok m' => cases hfault
  | error fault' => rfl

lemma decidesState (m : Topology) (s : State) : m.DecidesState s (m.perform (.register s)) := by
  rw [perform]
  by_cases hid : s.id ∈ m.ids
  · have hr := register_of_taken hid
    exact
      { result_eq_ok_iff := by simp [hr, settle, hid]
        of_ok := by simp [hr, settle]
        of_taken := fun _ => hr ▸ m.declined_settle (.stateAlreadyRegistered s.id)
        of_unlabelled := fun h => absurd hid h
        of_error := topology_settle }
  · by_cases hlabel : s.label = ""
    · have hr := register_of_unlabelled hid hlabel
      exact
        { result_eq_ok_iff := by simp [hr, settle, hlabel]
          of_ok := by simp [hr, settle]
          of_taken := fun h => absurd h hid
          of_unlabelled := fun _ _ => hr ▸ m.declined_settle (.emptyStateLabel s.id)
          of_error := topology_settle }
    · have hr := register_eq_ok_iff.mpr ⟨hid, hlabel, rfl⟩
      exact
        { result_eq_ok_iff := by simp [hr, settle, hid, hlabel]
          of_ok := by simp [hr, settle]
          of_taken := fun h => absurd h hid
          of_unlabelled := fun _ h => absurd h hlabel
          of_error := topology_settle }

lemma decidesTransition (hm : m.ids.Nodup) (t : Transition) :
    m.DecidesTransition t (m.perform (.connect t)) := by
  rw [perform]
  cases hends : t.ends with
  | none =>
      have hr : m.connect t = _ := connect_of_cleared hends
      exact
        { result_eq_ok_iff := by simp [hr, settle, hends]
          of_ok := by simp [hr, settle]
          of_cleared := fun _ => hr ▸ m.declined_settle (.noEndpoints t.id)
          of_start := by simp [hends]
          of_goal := by simp [hends]
          of_error := topology_settle }
  | some ends =>
      obtain ⟨start, goal⟩ := ends
      by_cases hstart : start ∈ m.ids
      · by_cases hgoal : goal ∈ m.ids
        · have hr := connect_of_ends hm hends hstart hgoal
          have hleaves : ∀ s : State, t.start? = some s.id ↔ s.id = start := by
            simp [Transition.start?, hends, eq_comm]
          exact
            { result_eq_ok_iff := by simp [hr, settle, hends, hstart, hgoal]
              of_ok := by simp [hr, settle, hleaves]
              of_cleared := by simp [hends]
              of_start := by simp [hends, hstart]
              of_goal := by simp [hends, hgoal]
              of_error := topology_settle }
        · have hr : m.connect t = _ := connect_of_goal hends hstart hgoal
          exact
            { result_eq_ok_iff := by simp [hr, settle, hends, hgoal]
              of_ok := by simp [hr, settle]
              of_cleared := by simp [hends]
              of_start := by simp [hends, hstart]
              of_goal := by
                intro start' goal' hends' _ _
                obtain ⟨-, rfl⟩ : start = start' ∧ goal = goal' := by simpa [hends] using hends'
                exact hr ▸ m.declined_settle (.stateNotRegistered goal)
              of_error := topology_settle }
      · have hr : m.connect t = _ := connect_of_start hends hstart
        exact
          { result_eq_ok_iff := by simp [hr, settle, hends, hstart]
            of_ok := by simp [hr, settle]
            of_cleared := by simp [hends]
            of_start := by
              intro start' goal' hends' _
              obtain ⟨rfl, -⟩ : start = start' ∧ goal = goal' := by simpa [hends] using hends'
              exact hr ▸ m.declined_settle (.stateNotRegistered start)
            of_goal := by simp [hends, hstart]
            of_error := topology_settle }

/-- **Registration accepts exactly what is valid, and fails without a trace**, in every reachable
topology. -/
theorem registration_decided (h : m.Reachable) :
    (∀ s, m.DecidesState s (m.perform (.register s))) ∧
      ∀ t, m.DecidesTransition t (m.perform (.connect t)) :=
  ⟨m.decidesState, decidesTransition h.wellFormed.ids_nodup⟩

/-- The cleared state is refused for its id. A state that carries a transition is registered without
it, and a loop goes twice to the list where it starts. Of two ends that are both missing, the start
is named. -/
theorem registration_decided_carried :
    let loop : Transition := { id := 1, label := "again", ends := some ⟨7, 7⟩ }
    let stray : Transition := { id := 1, label := "again", ends := some ⟨9, 8⟩ }
    let m := ((({} : Topology).perform (.register ⟨0, "zero", []⟩)).2.perform
      (.register ⟨7, "seven", [stray]⟩)).2.perform (.connect loop) |>.2
    m.Reachable ∧
      m.perform (.register .cleared) = (.error (.stateAlreadyRegistered 0), m) ∧
      (m.perform (.register ⟨8, "eight", [loop]⟩)).2.states = m.states ++ [⟨8, "eight", []⟩] ∧
      (m.perform (.connect loop)).2.states = [⟨0, "zero", []⟩, ⟨7, "seven", [loop, loop]⟩] ∧
      m.perform (.connect stray) = (.error (.stateNotRegistered 9), m) ∧
      (∀ s, m.DecidesState s (m.perform (.register s))) ∧
        ∀ t, m.DecidesTransition t (m.perform (.connect t)) := by
  intro loop stray m
  have h : m.Reachable := .perform _ (.perform _ (.perform _ .empty))
  exact ⟨h, rfl, rfl, rfl, rfl, registration_decided h⟩

end Topology

end ManagedNode
