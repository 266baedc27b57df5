import ManagedNode.Proofs.Topology.Edit

/-!
The order in which states and transitions are registered.

A transition can be registered once both of its ends are. Beyond that the order does not matter:
whatever can be registered in some order can be registered with all the states first, and gives the
same topology.

* `Topology.Entry`, `Topology.enter`, `Topology.enterAll`: registrations of either kind, one after
  another, all of which have to be accepted. `Entry.statesFirst` puts the states in front.
* `Topology.register_of_connect`: a state that is accepted after a transition is accepted before it,
  with the same outcome. It is moved past one transition by this, and past all of them by induction.
* `Topology.Admits`: what registering a state leaves as it was, which is every transition, every
  position, and whatever a lookup has found.
* `Topology.enterAll_statesFirst`: any order gives what the states give first.
-/

namespace ManagedNode

namespace Topology

variable {m m₁ m₂ : Topology} {s : State} {t : Transition}

/-! ### Registrations one after another -/

/-- One registration. -/
inductive Entry
  | state (s : State)
  | transition (t : Transition)
  deriving DecidableEq, Repr

/-- Is it a state that is registered? -/
def Entry.isState : Entry → Bool
  | state _ => true
  | transition _ => false

/-- All registrations of states, and then all of transitions, each kind in the order it had. -/
def Entry.statesFirst (entries : List Entry) : List Entry :=
  entries.filter isState ++ entries.filter fun e => !e.isState

/-- The topology after a registration that is accepted. -/
def enter (m : Topology) : Entry → Except Fault Topology
  | .state s => m.register s
  | .transition t => m.connect t

/-- The topology after registrations that are all accepted. -/
def enterAll (m : Topology) (entries : List Entry) : Except Fault Topology :=
  entries.foldlM enter m

lemma enterAll_cons {e : Entry} {entries : List Entry} :
    m.enterAll (e :: entries) = .ok m₂ ↔
      ∃ m₁, m.enter e = .ok m₁ ∧ m₁.enterAll entries = .ok m₂ := by
  rw [enterAll, List.foldlM_cons, bind_eq_ok]
  rfl

lemma enterAll_append {entries more : List Entry} :
    m.enterAll (entries ++ more) = .ok m₂ ↔
      ∃ m₁, m.enterAll entries = .ok m₁ ∧ m₁.enterAll more = .ok m₂ := by
  rw [enterAll, List.foldlM_append, bind_eq_ok]
  rfl

/-! ### One state and one transition -/

/-- A position that is found lies among the states. -/
lemma lt_length_of_position? {id : StateId} {i : ℕ} (h : m.position? id = some i) :
    i < m.states.length := by
  have hid : m.ids[i]? = some id := getElem?_ids_of_position? h
  obtain ⟨hi, -⟩ := List.getElem?_eq_some_iff.mp hid
  simpa [ids] using hi

/-- Changing one of the states does not touch those that are added after them. -/
lemma modify_append_of_lt {states : List State} {i : ℕ} (h : i < states.length)
    (f : State → State) (added : List State) :
    (states ++ added).modify i f = states.modify i f ++ added := by
  have hle : i ≤ states.length := Nat.le_of_lt h
  have hlt : i < (states ++ added).length := by
    rw [List.length_append]
    omega
  rw [List.modify_eq_take_cons_drop hlt, List.modify_eq_take_cons_drop h,
    List.take_append_of_le_length hle, List.getElem_append_left h,
    List.drop_append_of_le_length (show i + 1 ≤ states.length from h), List.append_assoc,
    List.cons_append]

/-- A state that is accepted right after a transition is accepted right before it as well, with the
same outcome: the transition finds its ends where they were, and the position that it changes is not
that of the new state. -/
lemma register_of_connect (hc : m.connect t = .ok m₁) (hr : m₁.register s = .ok m₂) :
    ∃ m', m.register s = .ok m' ∧ m'.connect t = .ok m₂ := by
  obtain ⟨hnew, hlabel, rfl⟩ := register_eq_ok_iff.mp hr
  rw [ids_connect hc] at hnew
  have hr' := register_eq_ok_iff.mpr ⟨hnew, hlabel, rfl⟩
  have hext := extends_register hr'
  obtain ⟨ends, position, hends, hposition, hgoal, rfl⟩ := connect_eq_ok hc
  have hposition' := hext.position?_eq hposition
  have hgoal' := registers_iff.mpr (hext.mem_ids (registers_iff.mp hgoal))
  have hlt : position < m.states.length := lt_length_of_position? hposition
  refine ⟨_, hr', ?_⟩
  rw [connect, hends]
  simp only [hposition', hgoal', Bool.not_true, Bool.false_eq_true, if_false,
    modify_append_of_lt hlt]

/-! ### All states first -/

/-- States that are accepted after a transition are accepted before it, with the same outcome. -/
lemma enterAll_of_connect {entries : List Entry} (hentries : ∀ e ∈ entries, e.isState = true)
    (hc : m.connect t = .ok m₁) (h : m₁.enterAll entries = .ok m₂) :
    ∃ m', m.enterAll entries = .ok m' ∧ m'.connect t = .ok m₂ := by
  induction entries generalizing m m₁ with
  | nil =>
      cases h
      exact ⟨m, rfl, hc⟩
  | cons e entries ih =>
      obtain ⟨hstate, hothers⟩ := List.forall_mem_cons.mp hentries
      cases e with
      | state s =>
          obtain ⟨m₃, hr, hrest⟩ := enterAll_cons.mp h
          obtain ⟨m', hr', hc'⟩ := register_of_connect hc hr
          obtain ⟨m'', hrest', hc''⟩ := ih hothers hc' hrest
          exact ⟨m'', enterAll_cons.mpr ⟨m', hr', hrest'⟩, hc''⟩
      | transition t => cases hstate

/-- Registrations that are accepted in some order are accepted with the states first, and lead to
the same topology. -/
lemma enterAll_statesFirst {entries : List Entry} (h : m.enterAll entries = .ok m₂) :
    m.enterAll (Entry.statesFirst entries) = .ok m₂ := by
  induction entries generalizing m with
  | nil => exact h
  | cons e entries ih =>
      obtain ⟨m₁, he, hrest⟩ := enterAll_cons.mp h
      have hfirst := ih hrest
      cases e with
      | state s => exact enterAll_cons.mpr ⟨m₁, he, hfirst⟩
      | transition t =>
          -- The transition goes from the front to where the transitions begin.
          obtain ⟨m₃, hstates, htransitions⟩ := enterAll_append.mp hfirst
          have hall : ∀ e ∈ entries.filter Entry.isState, e.isState = true := by
            intro e he
            exact (List.mem_filter.mp he).2
          obtain ⟨m', hstates', hc⟩ := enterAll_of_connect hall he hstates
          exact enterAll_append.mpr ⟨m', hstates', enterAll_cons.mpr ⟨m₃, hc, htransitions⟩⟩

/-! ### What a new state leaves as it was -/

/-- The topology `m'` has the state `s` beside everything that `m` has: no transition, no position
and nothing that a lookup has found is another one. -/
structure Admits (m : Topology) (s : State) (m' : Topology) : Prop where
  generation_eq : m'.generation = m.generation
  transitions_eq : m'.transitions = m.transitions
  stateAt?_eq : ∀ i < m.states.length, m'.stateAt? i = m.stateAt? i
  position?_eq : ∀ id ≠ s.id, m'.position? id = m.position? id
  state?_eq : ∀ id ≠ s.id, m'.state? id = m.state? id
  state?_self : m.state? s.id = none ∧ m'.state? s.id = some { id := s.id, label := s.label }
  stateLabelled?_eq : ∀ label found,
    m.stateLabelled? label = some found → m'.stateLabelled? label = some found
  transition?_eq : ∀ id, m'.transition? id = m.transition? id

/-- An accepted state changes nothing of what was there. -/
lemma admits_register (h : m.register s = .ok m₁) : m.Admits s m₁ := by
  obtain ⟨hnew, -, rfl⟩ := register_eq_ok_iff.mp h
  have hnone : m.state? s.id = none := by
    rw [← Option.not_isSome_iff_eq_none, isSome_state?]
    exact hnew
  constructor
  · rfl
  · rfl
  · intro i hi
    exact List.getElem?_append_left hi
  · intro id hid
    have hother : (s.id == id) = false := by simpa using hid.symm
    simp [position?, List.findIdx?_append, hother]
  · intro id hid
    have hother : (s.id == id) = false := by simpa using hid.symm
    simp [state?, List.find?_append, hother]
  · refine ⟨hnone, ?_⟩
    rw [state?] at hnone ⊢
    simp [List.find?_append, hnone]
  · intro label found hfound
    rw [stateLabelled?] at hfound ⊢
    simp [List.find?_append, hfound]
  · intro id
    rfl

/-- **The order of registrations does not matter beyond being checked.** Registrations that are all
accepted in some order are all accepted with the states first, and lead to the same topology; and a
state that is added after transitions changes nothing of what was there. -/
theorem registration_order {entries : List Entry} (h : m.enterAll entries = .ok m₂) :
    m.enterAll (Entry.statesFirst entries) = .ok m₂ ∧
      ∀ before s after, entries = before ++ .state s :: after →
        ∃ m₁ m', m.enterAll before = .ok m₁ ∧ m₁.register s = .ok m' ∧ m₁.Admits s m' ∧
          m'.enterAll after = .ok m₂ := by
  refine ⟨enterAll_statesFirst h, ?_⟩
  rintro before s after rfl
  obtain ⟨m₁, hbefore, hrest⟩ := enterAll_append.mp h
  obtain ⟨m', hr, hafter⟩ := enterAll_cons.mp hrest
  exact ⟨m₁, m', hbefore, hr, admits_register hr, hafter⟩

/-- A loop is registered before a second state is, and a way there and back after it. -/
theorem registration_order_loop :
    let loop : Transition := { id := 1, label := "again", ends := some ⟨7, 7⟩ }
    let there : Transition := { id := 2, label := "there", ends := some ⟨7, 8⟩ }
    let back : Transition := { id := 1, label := "back", ends := some ⟨8, 7⟩ }
    let entries : List Entry :=
      [.state ⟨7, "seven", []⟩, .transition loop, .state ⟨8, "eight", [loop]⟩, .transition there,
        .transition back]
    let m : Topology := {
      states := [⟨7, "seven", [loop, there]⟩, ⟨8, "eight", [back]⟩]
      transitions := [loop, there, back]
      generation := 3 }
    enterAll { generation := 3 } entries = .ok m ∧
      enterAll { generation := 3 } (Entry.statesFirst entries) = .ok m := by
  intro loop there back entries m
  have h : enterAll { generation := 3 } entries = .ok m := rfl
  exact ⟨h, (registration_order h).1⟩

end Topology

end ManagedNode
