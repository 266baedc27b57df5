import ManagedNode.Proofs.Topology.Invariant
import ManagedNode.Proofs.Topology.Order

/-!
Lookups while a topology grows.

A lookup answers with the first match in one of three lists: all states, all transitions, and the
transitions that leave one state. Registrations add to the ends of these lists, so that whatever was
found before is found again, whoever shares its name; and whatever is found for the first time has
been accepted since.

* `State.Continues`: a state with further transitions after those that left it.
* `Topology.attemptAll`, `Topology.accepted`: registrations one after another, and those of them
  that are accepted. These lead to the same topology by themselves (`Topology.enterAll_accepted`).
* `Topology.Adds`: what accepted registrations add to a topology. One of them adds to one of its
  lists (`Topology.adds_enter`), and so does a run of them (`Topology.adds_enterAll`).
* `Topology.Steady`, `Topology.lookups_steady`: every lookup before and after.
-/

namespace ManagedNode

/-- The state `s'` is the state `s` with further transitions, after those that left it before. -/
structure State.Continues (s s' : State) : Prop where
  description_eq : s'.description = s.description
  outgoing_prefix : s.outgoing <+: s'.outgoing

namespace Topology

variable {m m' m'' : Topology} {entries more : List Entry} {id : StateId} {s s' : State}
  {t : Transition} {q : Selector}

/-! ### Registrations, accepted or refused -/

/-- The edit that a registration is. -/
def Entry.edit : Entry → Edit
  | .state s => .register s
  | .transition t => .connect t

/-- The state that is registered. -/
def Entry.state? : Entry → Option State
  | .state s => some s
  | .transition _ => none

/-- The transition that is registered. -/
def Entry.transition? : Entry → Option Transition
  | .state _ => none
  | .transition t => some t

/-- The states among registrations. -/
def Entry.states (entries : List Entry) : List State := entries.filterMap Entry.state?

/-- The transitions among registrations. -/
def Entry.transitions (entries : List Entry) : List Transition :=
  entries.filterMap Entry.transition?

lemma Entry.states_append (entries more : List Entry) :
    Entry.states (entries ++ more) = Entry.states entries ++ Entry.states more :=
  List.filterMap_append

lemma Entry.transitions_append (entries more : List Entry) :
    Entry.transitions (entries ++ more) = Entry.transitions entries ++ Entry.transitions more :=
  List.filterMap_append

/-- The topology after registrations one after another, some of which may be refused. -/
def attemptAll (m : Topology) (entries : List Entry) : Topology :=
  m.performAll (entries.map Entry.edit)

/-- The registrations that are accepted, each when its turn comes. -/
def accepted (m : Topology) : List Entry → List Entry
  | [] => []
  | e :: entries =>
      match m.perform e.edit with
      | (.ok (), m') => e :: m'.accepted entries
      | (.error _, m') => m'.accepted entries

lemma perform_edit (m : Topology) (e : Entry) : m.perform e.edit = m.settle (m.enter e) := by
  cases e <;> rfl

/-- Without those that are refused, registrations lead to the same topology. -/
lemma enterAll_accepted (m : Topology) (entries : List Entry) :
    m.enterAll (m.accepted entries) = .ok (m.attemptAll entries) := by
  induction entries generalizing m with
  | nil => rfl
  | cons e entries ih =>
      have hstep : m.attemptAll (e :: entries) = (m.perform e.edit).2.attemptAll entries := rfl
      rw [hstep, accepted, perform_edit]
      cases he : m.enter e with
      | ok m' => exact enterAll_cons.mpr ⟨m', he, ih m'⟩
      | error fault => exact ih m

/-! ### What is added -/

/-- The topology `m'` has what is registered by these entries after everything that `m` has. -/
structure Adds (m : Topology) (entries : List Entry) (m' : Topology) : Prop where
  grows : m.Grows m'
  described_eq : m'.described = m.described ++ (Entry.states entries).map State.description
  transitions_eq : m'.transitions = m.transitions ++ Entry.transitions entries

/-- The step: a registration that is accepted adds a state or a transition. -/
lemma adds_enter {e : Entry} (h : m.enter e = .ok m') : m.Adds [e] m' := by
  cases e with
  | state s =>
      have hr : m.register s = .ok m' := h
      refine ⟨grows_register hr, described_register hr, ?_⟩
      rw [register_eq_ok hr]
      exact (List.append_nil _).symm
  | transition t =>
      have hc : m.connect t = .ok m' := h
      refine ⟨grows_connect hc, ?_, ?_⟩
      · rw [described_connect hc]
        exact (List.append_nil _).symm
      · obtain ⟨ends, position, -, -, -, rfl⟩ := connect_eq_ok hc
        rfl

namespace Adds

lemma trans (h : m.Adds entries m') (h' : m'.Adds more m'') : m.Adds (entries ++ more) m'' where
  grows := h.grows.trans h'.grows
  described_eq := by
    rw [h'.described_eq, h.described_eq, Entry.states_append, List.map_append, List.append_assoc]
  transitions_eq := by
    rw [h'.transitions_eq, h.transitions_eq, Entry.transitions_append, List.append_assoc]

end Adds

/-- The run: so do registrations that are all accepted, one after another. -/
lemma adds_enterAll (h : m.enterAll entries = .ok m') : m.Adds entries m' := by
  induction entries generalizing m with
  | nil =>
      cases h
      exact ⟨.refl, (List.append_nil _).symm, (List.append_nil _).symm⟩
  | cons e entries ih =>
      obtain ⟨m₁, he, hrest⟩ := enterAll_cons.mp h
      exact (adds_enter he).trans (ih hrest)

/-! ### States -/

/-- A state that is found by what is told of it is found among all that is told. -/
lemma map_find?_description (m : Topology) (p : StateDescription → Bool) :
    (m.states.find? fun s => p s.description).map State.description = m.described.find? p :=
  List.find?_map.symm

namespace Adds

/-- Further transitions that start at an id come after those that did before. -/
lemma leaving_eq (h : m.Adds entries m') (id : StateId) :
    m'.leaving id =
      m.leaving id ++ (Entry.transitions entries).filter fun t => t.start? = some id := by
  rw [leaving, h.transitions_eq, List.filter_append]
  rfl

/-- A state with the same description has the same transitions as before, and then further ones. -/
lemma outgoing_eq (h : m.Adds entries m') (hm : m.WellFormed) (hs : s ∈ m.states)
    (hs' : s' ∈ m'.states) (hid : s'.id = s.id) :
    s'.outgoing =
      s.outgoing ++ (Entry.transitions entries).filter fun t => t.start? = some s.id := by
  rw [(hm.grows h.grows).outgoing_eq s' hs', hm.outgoing_eq s hs, hid, h.leaving_eq]

lemma continues (h : m.Adds entries m') (hm : m.WellFormed) (hs : s ∈ m.states)
    (hs' : s' ∈ m'.states) (hdescription : s'.description = s.description) : s.Continues s' := by
  refine ⟨hdescription, ?_⟩
  rw [h.outgoing_eq hm hs hs' (congrArg StateDescription.id hdescription)]
  exact List.prefix_append _ _

/-- Every state keeps its place. -/
lemma stateAt?_of_some (h : m.Adds entries m') (hm : m.WellFormed) {i : ℕ}
    (hs : m.stateAt? i = some s) : ∃ s', m'.stateAt? i = some s' ∧ s.Continues s' := by
  obtain ⟨s', hs', hdescription⟩ := h.grows.toExtends.stateAt? hs
  exact ⟨s', hs', h.continues hm (mem_of_stateAt? hs) (mem_of_stateAt? hs') hdescription⟩

/-- The first state of a kind stays the first, where the kind is told by descriptions. -/
lemma find?_states_of_some (h : m.Adds entries m') (hm : m.WellFormed)
    {p : StateDescription → Bool} (hs : m.states.find? (fun s => p s.description) = some s) :
    ∃ s', m'.states.find? (fun s => p s.description) = some s' ∧ s.Continues s' := by
  have hbefore : m.described.find? p = some s.description := by
    rw [← map_find?_description, hs, Option.map_some]
  have hafter : m'.described.find? p = some s.description := by
    rw [h.described_eq, List.find?_append, hbefore, Option.some_or]
  rw [← map_find?_description] at hafter
  obtain ⟨s', hs', hdescription⟩ := Option.map_eq_some_iff.mp hafter
  exact ⟨s', hs', h.continues hm (List.mem_of_find?_eq_some hs) (List.mem_of_find?_eq_some hs')
    hdescription⟩

/-- Where there was no state of a kind, the first that is accepted is found. -/
lemma find?_states_of_none (h : m.Adds entries m') {p : StateDescription → Bool}
    (hs : m.states.find? (fun s => p s.description) = none) :
    (m'.states.find? fun s => p s.description).map State.description =
      ((Entry.states entries).find? fun s => p s.description).map State.description := by
  have hbefore : m.described.find? p = none := by
    rw [← map_find?_description, hs, Option.map_none]
  rw [map_find?_description, h.described_eq, List.find?_append, hbefore, Option.none_or,
    List.find?_map]
  rfl

/-! ### Transitions -/

lemma transition?_eq (h : m.Adds entries m') (id : TransitionId) :
    m'.transition? id =
      (m.transition? id).or ((Entry.transitions entries).find? fun t => t.id == id) := by
  rw [transition?, h.transitions_eq, List.find?_append]
  rfl

/-- The transition that leaves a state by a request stays the same; if there was none, it is the
first one accepted that leaves the state and is asked for. -/
lemma find?_eq (h : m.Adds entries m') (hm : m.WellFormed) (hs : m.state? id = some s)
    (hs' : m'.state? id = some s') (q : Selector) :
    s'.find? q = (s.find? q).or
      ((Entry.transitions entries).find? fun t => t.start? = some id && q.selects t) := by
  obtain rfl := id_of_state? hs
  rw [State.find?, h.outgoing_eq hm (mem_of_state? hs) (mem_of_state? hs') (id_of_state? hs'),
    List.find?_append, List.find?_filter]
  simp only [State.find?, Bool.decide_and, Bool.decide_eq_true]

/-- From a state that was not registered before, nothing leads but what has been accepted. -/
lemma outgoing_of_none (h : m.Adds entries m') (hm : m.WellFormed) (hs : m.state? id = none)
    (hs' : m'.state? id = some s') :
    s'.outgoing = (Entry.transitions entries).filter fun t => t.start? = some id := by
  have hnew : id ∉ m.ids := by
    rw [← isSome_state?, hs]
    exact Bool.false_ne_true
  rw [(hm.grows h.grows).outgoing_eq s' (mem_of_state? hs'), id_of_state? hs', h.leaving_eq,
    hm.leaving_eq_nil hnew, List.nil_append]

end Adds

/-! ### All lookups -/

/-- What the lookups in `m'` find, against those in `m`, when the registrations of `gained` have
been accepted meanwhile. -/
structure Steady (m : Topology) (gained : List Entry) (m' : Topology) : Prop where
  generation_eq : m'.generation = m.generation
  stateAt?_of_some : ∀ i s, m.stateAt? i = some s →
    ∃ s', m'.stateAt? i = some s' ∧ s.Continues s'
  position?_of_some : ∀ id i, m.position? id = some i → m'.position? id = some i
  state?_of_some : ∀ id s, m.state? id = some s → ∃ s', m'.state? id = some s' ∧ s.Continues s'
  stateLabelled?_of_some : ∀ label s, m.stateLabelled? label = some s →
    ∃ s', m'.stateLabelled? label = some s' ∧ s.Continues s'
  transition?_of_some : ∀ id t, m.transition? id = some t → m'.transition? id = some t
  find?_of_some : ∀ id s s', m.state? id = some s → m'.state? id = some s' →
    ∀ q t, s.find? q = some t → s'.find? q = some t
  /-- What was missed is found among what has been accepted, or is missed again. -/
  state?_of_none : ∀ id, m.state? id = none → (m'.state? id).map State.description =
    ((Entry.states gained).find? fun s => s.id == id).map State.description
  stateLabelled?_of_none : ∀ label, m.stateLabelled? label = none →
    (m'.stateLabelled? label).map State.description =
      ((Entry.states gained).find? fun s => s.label == label).map State.description
  outgoing_of_none : ∀ id s', m.state? id = none → m'.state? id = some s' →
    s'.outgoing = (Entry.transitions gained).filter fun t => t.start? = some id
  transition?_of_none : ∀ id, m.transition? id = none →
    m'.transition? id = (Entry.transitions gained).find? fun t => t.id == id
  find?_of_none : ∀ id s s', m.state? id = some s → m'.state? id = some s' →
    ∀ q, s.find? q = none →
      s'.find? q = (Entry.transitions gained).find? fun t => t.start? = some id && q.selects t

lemma Adds.steady (h : m.Adds entries m') (hm : m.WellFormed) : m.Steady entries m' where
  generation_eq := h.grows.toExtends.generation_eq
  stateAt?_of_some := fun _ _ hs => h.stateAt?_of_some hm hs
  position?_of_some := fun _ _ hi => h.grows.toExtends.position?_eq hi
  state?_of_some := fun id _ hs => h.find?_states_of_some hm (p := fun d => d.id == id) hs
  stateLabelled?_of_some := fun label _ hs =>
    h.find?_states_of_some hm (p := fun d => d.label == label) hs
  transition?_of_some := fun id t ht => by rw [h.transition?_eq, ht, Option.some_or]
  find?_of_some := fun id s s' hs hs' q t ht => by
    rw [h.find?_eq hm hs hs', ht, Option.some_or]
  state?_of_none := fun id hs => h.find?_states_of_none (p := fun d => d.id == id) hs
  stateLabelled?_of_none := fun label hs =>
    h.find?_states_of_none (p := fun d => d.label == label) hs
  outgoing_of_none := fun _ _ hs hs' => h.outgoing_of_none hm hs hs'
  transition?_of_none := fun id ht => by rw [h.transition?_eq, ht, Option.none_or]
  find?_of_none := fun id s s' hs hs' q hq => by
    rw [h.find?_eq hm hs hs', hq, Option.none_or]

/-- **Lookups are steady while a topology grows**, from every reachable topology and through any
registrations, accepted or refused. -/
theorem lookups_steady (h : m.Reachable) (entries : List Entry) :
    m.Steady (m.accepted entries) (m.attemptAll entries) :=
  (adds_enterAll (m.enterAll_accepted entries)).steady h.wellFormed

/-- Two states share a label, and a way leads from the first to the second. A loop of the same name
is accepted after it, and a third state with a way there; a state whose id is taken and a way to
nowhere are refused. -/
theorem lookups_steady_shared :
    let go : Transition := { id := 5, label := "go", ends := some ⟨1, 2⟩ }
    let again : Transition := { id := 5, label := "go", ends := some ⟨1, 1⟩ }
    let nowhere : Transition := { id := 6, label := "on", ends := some ⟨1, 9⟩ }
    let onward : Transition := { id := 6, label := "on", ends := some ⟨1, 3⟩ }
    let m := ({} : Topology).performAll
      [.register ⟨1, "a", []⟩, .register ⟨2, "a", []⟩, .connect go]
    let entries : List Entry :=
      [.transition again, .state ⟨1, "b", []⟩, .transition nowhere, .state ⟨3, "b", [go]⟩,
        .transition onward]
    m.Reachable ∧
      m.accepted entries = [.transition again, .state ⟨3, "b", [go]⟩, .transition onward] ∧
      (m.attemptAll entries).states =
        [⟨1, "a", [go, again, onward]⟩, ⟨2, "a", []⟩, ⟨3, "b", []⟩] ∧
      m.Steady (m.accepted entries) (m.attemptAll entries) := by
  intro go again nowhere onward m entries
  have h : m.Reachable := Reachable.empty.performAll _
  exact ⟨h, rfl, rfl, lookups_steady h entries⟩

end Topology

end ManagedNode
