import Mathlib.Algebra.BigOperators.Ring.Finset
import Mathlib.Data.Fintype.Card
import ManagedNode.Proofs.Topology.Edit

/-!
The invariant of topologies.

* `Topology.leaving`: the transitions that start at an id, among all transitions.
* `Topology.WellFormed`: no id is registered twice, nothing lacks a label, both ends of every
  transition are registered, and the list kept in every state is the list of the transitions
  that leave it. The last field is what the two registrations have to keep in step, since each
  transition is stored twice.
* `WellFormed.register`, `WellFormed.connect`: the two steps; `Reachable.wellFormed`: every
  reachable topology.
* `Topology.Edge`, `WellFormed.exists_edge`: what is kept in a state leads from it to a registered
  state.
* `WellFormed.sum_outDegree`: the out-degrees add up to the number of transitions.
-/

namespace ManagedNode

namespace Topology

variable {m m' : Topology} {id : StateId} {s : State} {t : Transition}

/-- The transitions that start at the state with this id, in the order of registration. -/
def leaving (m : Topology) (id : StateId) : List Transition :=
  m.transitions.filter fun t => t.start? = some id

/-- Where each transition starts, with multiplicities. -/
def starts (m : Topology) : Multiset (Option StateId) :=
  (m.transitions : Multiset Transition).map Transition.start?

lemma mem_leaving : t ∈ m.leaving id ↔ t ∈ m.transitions ∧ t.start? = some id := by
  simp [leaving]

/-- A transition has a label and joins two states that are registered here. -/
def Joins (m : Topology) (t : Transition) : Prop :=
  t.label ≠ "" ∧ ∃ start goal, t.ends = some ⟨start, goal⟩ ∧ start ∈ m.ids ∧ goal ∈ m.ids

/-- Transitions stay joined to the states of a topology that is extended. -/
lemma Extends.joins (h : m.Extends m') (ht : m.Joins t) : m'.Joins t := by
  obtain ⟨hlabel, start, goal, hends, hstart, hgoal⟩ := ht
  exact ⟨hlabel, start, goal, hends, h.mem_ids hstart, h.mem_ids hgoal⟩

/-- The transition `t` is registered, and leads from one of two registered states to the other. -/
structure Edge (m : Topology) (start : State) (t : Transition) (goal : State) : Prop where
  mem : t ∈ m.transitions
  ends_eq : t.ends = some ⟨start.id, goal.id⟩
  start_eq : m.state? start.id = some start
  goal_eq : m.state? goal.id = some goal

lemma Edge.start?_eq {start goal : State} (h : m.Edge start t goal) : t.start? = some start.id := by
  rw [Transition.start?, h.ends_eq]
  rfl

/-- The invariant of topologies. -/
structure WellFormed (m : Topology) : Prop where
  ids_nodup : m.ids.Nodup
  label_ne_empty : ∀ s ∈ m.states, s.label ≠ ""
  joins : ∀ t ∈ m.transitions, m.Joins t
  outgoing_eq : ∀ s ∈ m.states, s.outgoing = m.leaving s.id

/-- Nothing is registered in an empty topology, of whatever generation. -/
lemma wellFormed_empty (n : ℕ) : WellFormed { generation := n } where
  ids_nodup := List.nodup_nil
  label_ne_empty := by simp
  joins := by simp
  outgoing_eq := by simp

namespace WellFormed

/-- Nothing leaves an id that is not registered. -/
lemma leaving_eq_nil (hm : m.WellFormed) (hid : id ∉ m.ids) : m.leaving id = [] := by
  refine List.filter_eq_nil_iff.mpr fun t ht hstart => hid ?_
  obtain ⟨-, start, goal, hends, hmem, -⟩ := hm.joins t ht
  have : start = id := by simpa [Transition.start?, hends] using hstart
  exact this ▸ hmem

/-- A state that is accepted has a new id and a label, and nothing leaves it. -/
lemma register (hm : m.WellFormed) (h : m.register s = .ok m') : m'.WellFormed := by
  have hext := extends_register h
  have hids := ids_register h
  obtain ⟨hnew, hlabel, rfl⟩ := register_eq_ok_iff.mp h
  constructor
  · rw [hids, List.nodup_append]
    refine ⟨hm.ids_nodup, List.nodup_singleton _, ?_⟩
    rintro a ha b hb rfl
    exact hnew (List.mem_singleton.mp hb ▸ ha)
  · intro s' hs'
    rcases (List.mem_append.mp hs').imp_right List.mem_singleton.mp with hs' | rfl
    · exact hm.label_ne_empty s' hs'
    · exact hlabel
  · exact fun t ht => hext.joins (hm.joins t ht)
  · intro s' hs'
    rcases (List.mem_append.mp hs').imp_right List.mem_singleton.mp with hs' | rfl
    · exact hm.outgoing_eq s' hs'
    · exact (hm.leaving_eq_nil hnew).symm

/-- A transition that is accepted goes to the end of both of its lists: that of the state it
leaves, which distinct ids single out, and that of all transitions. -/
lemma connect (hm : m.WellFormed) (h : m.connect t = .ok m') : m'.WellFormed := by
  have hext := extends_connect h
  have hids := ids_connect h
  obtain ⟨⟨start, goal⟩, position, hends, hposition, hgoal, rfl⟩ := connect_eq_ok h
  have hstart : t.start? = some start := by rw [Transition.start?, hends]; rfl
  have hstates := modify_eq_map hm.ids_nodup hposition fun s => s.leaveBy t
  constructor
  · rw [hids]
    exact hm.ids_nodup
  · intro s' hs'
    rw [hstates, List.mem_map] at hs'
    obtain ⟨s, hs, rfl⟩ := hs'
    split_ifs <;> exact hm.label_ne_empty s hs
  · intro t' ht'
    rcases (List.mem_append.mp ht').imp_right List.mem_singleton.mp with ht' | rfl
    · exact hext.joins (hm.joins t' ht')
    · exact ⟨Transition.label_ne_empty hends, start, goal, hends,
        hext.mem_ids (mem_ids_of_position? hposition), hext.mem_ids (registers_iff.mp hgoal)⟩
  · intro s' hs'
    rw [hstates, List.mem_map] at hs'
    obtain ⟨s, hs, rfl⟩ := hs'
    have hold : s.outgoing = m.leaving s.id := hm.outgoing_eq s hs
    by_cases hid : s.id = start
    · rw [if_pos hid]
      simp [leaving, hold, hstart, hid]
    · rw [if_neg hid]
      simp [leaving, hold, hstart, Ne.symm hid]

/-- Growth keeps the invariant. -/
lemma grows (hm : m.WellFormed) (h : m.Grows m') : m'.WellFormed := by
  induction h with
  | refl => exact hm
  | register _ hr ih => exact ih.register hr
  | connect _ hc ih => exact ih.connect hc

/-- Every registered transition is an edge. -/
lemma exists_edge_of_mem (hm : m.WellFormed) (ht : t ∈ m.transitions) :
    ∃ start goal, m.Edge start t goal := by
  obtain ⟨-, start, goal, hends, hstart, hgoal⟩ := hm.joins t ht
  obtain ⟨s, hs⟩ := exists_state? hstart
  obtain ⟨g, hg⟩ := exists_state? hgoal
  obtain rfl := id_of_state? hs
  obtain rfl := id_of_state? hg
  exact ⟨s, g, ht, hends, hs, hg⟩

/-- With distinct ids, there is only one registered state where a transition can start. -/
lemma eq_start (hm : m.WellFormed) {start goal : State} (h : m.Edge start t goal)
    (hs : s ∈ m.states) (hstart : t.start? = some s.id) : start = s := by
  have hid : start.id = s.id := Option.some.inj (h.start?_eq.symm.trans hstart)
  exact List.inj_on_of_nodup_map hm.ids_nodup (mem_of_state? h.start_eq) hs hid

/-- A transition that a registered state keeps is an edge from it to a registered state. -/
lemma exists_edge (hm : m.WellFormed) (hs : s ∈ m.states) (ht : t ∈ s.outgoing) :
    ∃ goal, m.Edge s t goal := by
  rw [hm.outgoing_eq s hs, mem_leaving] at ht
  obtain ⟨start, goal, hedge⟩ := hm.exists_edge_of_mem ht.1
  obtain rfl := hm.eq_start hedge hs ht.2
  exact ⟨goal, hedge⟩

/-! ### Counting -/

/-- There are no more states than ids. -/
lemma length_states_le (hm : m.WellFormed) : m.states.length ≤ 256 := by
  have hinj : Function.Injective UInt8.toFin := fun _ _ h => UInt8.toFin_inj.mp h
  have h := (hm.ids_nodup.map hinj).length_le_card
  simpa [ids] using h

/-- The number of transitions in a state's list counts its id among all starts. -/
lemma length_outgoing (hm : m.WellFormed) (hs : s ∈ m.states) :
    s.outgoing.length = m.starts.count (some s.id) := by
  rw [hm.outgoing_eq s hs, leaving, starts, Multiset.count_map, Multiset.filter_coe,
    Multiset.coe_card]
  congr 2
  funext t
  exact decide_eq_decide.mpr eq_comm

/-- Every transition is counted at the one state that it leaves. -/
lemma sum_outDegree (hm : m.WellFormed) :
    (m.states.map fun s => s.outgoing.length).sum = m.transitions.length := by
  have hnodup : (m.ids.map some).Nodup := hm.ids_nodup.map (Option.some_injective _)
  have hmem : ∀ a ∈ m.starts, a ∈ (m.ids.map some).toFinset := by
    intro a ha
    obtain ⟨t, ht, rfl⟩ := Multiset.mem_map.mp ha
    obtain ⟨-, start, goal, hends, hstart, -⟩ := hm.joins t ht
    simp [Transition.start?, hends, hstart]
  calc (m.states.map fun s => s.outgoing.length).sum
      = (m.states.map fun s => m.starts.count (some s.id)).sum := by
        congr 1
        exact List.map_congr_left fun s hs => hm.length_outgoing hs
    _ = ((m.ids.map some).map fun a => m.starts.count a).sum := by
        rw [ids, List.map_map, List.map_map]
        rfl
    _ = ∑ a ∈ (m.ids.map some).toFinset, m.starts.count a := (List.sum_toFinset _ hnodup).symm
    _ = m.starts.card := Multiset.sum_count_eq_card hmem
    _ = m.transitions.length := by rw [starts, Multiset.card_map, Multiset.coe_card]

end WellFormed

/-! ### Reachable topologies -/

namespace Reachable

lemma wellFormed (h : m.Reachable) : m.WellFormed :=
  h.of_grows wellFormed_empty fun hg hm => hm.grows hg

/-- **The invariant of reachable topologies**: ids are distinct, so that there are at most 256
states, nothing lacks a label, every transition joins registered states, and every state keeps
exactly the transitions that leave it, in their order; so the out-degrees add up to the number of
transitions. -/
theorem representation_invariant (h : m.Reachable) :
    m.WellFormed ∧ m.states.length ≤ 256 ∧
      (m.states.map fun s => s.outgoing.length).sum = m.transitions.length :=
  ⟨h.wellFormed, h.wellFormed.length_states_le, h.wellFormed.sum_outDegree⟩

/-- A state registered from a value that already carries a transition, which is then registered
as a loop at it. -/
theorem representation_invariant_loop :
    let loop : Transition := { id := 1, label := "again", ends := some ⟨7, 7⟩ }
    let m := ((({} : Topology).perform (.register ⟨7, "seven", [loop]⟩)).2.perform
      (.connect loop)).2
    m.Reachable ∧ m.states = [⟨7, "seven", [loop]⟩] ∧ m.transitions = [loop] ∧
      m.WellFormed ∧ m.states.length ≤ 256 ∧
      (m.states.map fun s => s.outgoing.length).sum = m.transitions.length := by
  intro loop m
  have h : m.Reachable := .perform _ (.perform _ .empty)
  exact ⟨h, rfl, rfl, h.representation_invariant⟩

end Reachable

end Topology

end ManagedNode
