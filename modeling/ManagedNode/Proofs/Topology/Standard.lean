import Mathlib.Data.List.Find
import ManagedNode.Proofs.Topology.Edit

/-!
What loading the standard lifecycle comes to, whatever is registered already.

* `StandardState.along`: a standard state with the transitions of some rows that leave it;
  `StandardState.loaded`, with those of all rows.
* `Topology.joined`: a topology with the standard states, and some of the standard transitions,
  after everything else.
* `Topology.taken?`: the first standard state whose id is taken.
* `Topology.withStandard_eq`: loading is refused because of that state, or else joins the whole
  lifecycle to the topology. Once the states are in, no transition can be refused
  (`Topology.connect_joined`).
-/

namespace ManagedNode

open Standard (Row)

/-- A standard state with the transitions of these rows that leave it. -/
def StandardState.along (s : StandardState) (rows : List Row) : State :=
  { s.state with outgoing := (rows.filter fun r => r.start = s).map Row.transition }

/-- A standard state with all the standard transitions that leave it. -/
def StandardState.loaded (s : StandardState) : State := s.along Standard.rows

namespace StandardState

lemma nodup_all : all.Nodup := by decide

lemma id_inj {s t : StandardState} : s.id = t.id ↔ s = t := ⟨id_injective, congrArg id⟩

/-- One more row leaves the state where it starts. -/
lemma along_concat (s : StandardState) (rows : List Row) (r : Row) :
    s.along (rows ++ [r]) =
      if s.id = r.start.id then (s.along rows).leaveBy r.transition else s.along rows := by
  by_cases h : r.start = s
  · simp [along, State.leaveBy, List.filter_append, h]
  · simp [along, List.filter_append, h, id_inj, Ne.symm h]

end StandardState

namespace Topology

variable {m : Topology} {rows : List Row}

/-- The topology with the standard states, and with the standard transitions of these rows, after
everything else. -/
def joined (m : Topology) (rows : List Row) : Topology :=
  { m with
    states := m.states ++ StandardState.all.map (StandardState.along · rows)
    transitions := m.transitions ++ rows.map Row.transition }

/-- The first standard state whose id is taken. -/
def taken? (m : Topology) : Option StandardState :=
  StandardState.all.find? fun s => m.registers s.id

lemma taken?_eq_none_iff : m.taken? = none ↔ ∀ s : StandardState, s.id ∉ m.ids := by
  simp only [taken?, List.find?_eq_none, registers_iff]
  exact forall_congr' fun s => forall_prop_of_true s.mem_all

lemma ids_joined : (m.joined rows).ids = m.ids ++ StandardState.all.map StandardState.id := by
  simp only [ids, joined, List.map_append, List.map_map]
  rfl

/-- When no id of the standard lifecycle is taken, the ids of the joined topology are distinct. -/
lemma nodup_ids_joined (hm : m.ids.Nodup) (hfree : ∀ s : StandardState, s.id ∉ m.ids) :
    (m.joined rows).ids.Nodup := by
  rw [ids_joined, List.nodup_append]
  refine ⟨hm, StandardState.nodup_all.map fun _ _ => StandardState.id_injective, ?_⟩
  rintro a ha b hb rfl
  obtain ⟨s, -, rfl⟩ := List.mem_map.mp hb
  exact hfree s ha

lemma id_mem_joined (s : StandardState) : s.id ∈ (m.joined rows).ids := by
  rw [ids_joined]
  exact List.mem_append_right _ (List.mem_map_of_mem s.mem_all)

/-- The state found under the id of a standard state. -/
lemma state?_joined (hm : m.ids.Nodup) (hfree : ∀ s : StandardState, s.id ∉ m.ids)
    (s : StandardState) : (m.joined rows).state? s.id = some (s.along rows) := by
  refine (state?_eq_some_iff (nodup_ids_joined hm hfree)).mpr ⟨?_, rfl⟩
  exact List.mem_append_right _ (List.mem_map_of_mem s.mem_all)

/-! ### The states -/

/-- Registering standard states one after another is refused at the first one whose id is taken,
or else appends them all. -/
lemma foldlM_register (l : List StandardState) (hl : l.Nodup) :
    ∀ m : Topology, l.foldlM (fun m s => m.register s.state) m =
      match l.find? fun s => m.registers s.id with
      | some s => .error (.stateAlreadyRegistered s.id)
      | none => .ok { m with states := m.states ++ l.map StandardState.state } := by
  induction l with
  | nil => simp [pure, Except.pure]
  | cons s l ih =>
      intro m
      obtain ⟨hs, hl⟩ := List.nodup_cons.mp hl
      rw [List.foldlM_cons]
      cases htaken : m.registers s.id with
      | true =>
          have hrefused : m.register s.state = .error (.stateAlreadyRegistered s.id) :=
            if_pos htaken
          rw [hrefused, List.find?_cons, htaken]
          rfl
      | false =>
          have hnext : (l.find? fun s' => Topology.registers
              { m with states := m.states ++ [s.state] } s'.id) =
                l.find? fun s' => m.registers s'.id := by
            refine List.find?_congr fun s' hs' => ?_
            have hne : s ≠ s' := fun h => hs (h ▸ hs')
            simp [registers, StandardState.state, StandardState.id_inj, hne]
          have hfree : s.id ∉ m.ids := by simp [← registers_iff, htaken]
          have haccepted : m.register s.state =
              .ok { m with states := m.states ++ [s.state] } :=
            register_eq_ok_iff.mpr ⟨hfree, s.label_ne_empty, rfl⟩
          rw [haccepted, List.find?_cons, htaken]
          refine (ih hl _).trans ?_
          rw [hnext, List.map_cons, List.append_cons m.states s.state (l.map _)]

/-! ### The transitions -/

/-- A standard transition is accepted once the standard states are in, and goes to the end of both
of its lists. -/
lemma connect_joined (hm : m.ids.Nodup) (hfree : ∀ s : StandardState, s.id ∉ m.ids) (r : Row) :
    (m.joined rows).connect r.transition = .ok (m.joined (rows ++ [r])) := by
  have hnodup : (m.joined rows).ids.Nodup := nodup_ids_joined hm hfree
  have hold : ∀ s ∈ m.states, s.id ≠ r.start.id :=
    fun s hs hid => hfree r.start (hid ▸ List.mem_map_of_mem hs)
  have hstates : (m.joined rows).states.map
      (fun s => if s.id = r.start.id then s.leaveBy r.transition else s) =
        (m.joined (rows ++ [r])).states := by
    simp only [joined, List.map_append, List.map_map]
    congr 1
    · exact (List.map_congr_left fun s hs => if_neg (hold s hs)).trans (List.map_id _)
    · exact List.map_congr_left fun s _ => (s.along_concat rows r).symm
  rw [connect_of_ends hnodup rfl (id_mem_joined r.start) (id_mem_joined r.goal), hstates]
  simp [joined]

/-- Standard transitions are accepted one after another. -/
lemma foldlM_connect (hm : m.ids.Nodup) (hfree : ∀ s : StandardState, s.id ∉ m.ids)
    (l : List Row) : ∀ rows, l.foldlM (fun m r => m.connect r.transition) (m.joined rows) =
      .ok (m.joined (rows ++ l)) := by
  induction l with
  | nil => simp [pure, Except.pure]
  | cons r l ih =>
      intro rows
      rw [List.foldlM_cons, connect_joined hm hfree, List.append_cons rows r l]
      exact ih _

/-- Loading the standard lifecycle is refused because of the first of its states whose id is taken,
or else joins the whole of it to the topology. -/
theorem withStandard_eq (hm : m.ids.Nodup) :
    m.withStandard = match m.taken? with
      | some s => .error (.stateAlreadyRegistered s.id)
      | none => .ok (m.joined Standard.rows) := by
  rw [withStandard, withStandardStates, foldlM_register _ StandardState.nodup_all, ← taken?]
  cases htaken : m.taken? with
  | some s => rfl
  | none =>
      have hfree : ∀ s : StandardState, s.id ∉ m.ids := taken?_eq_none_iff.mp htaken
      have hbare : m.joined [] =
          { m with states := m.states ++ StandardState.all.map StandardState.state } := by
        simp [joined, StandardState.along, StandardState.state]
      have hloaded := foldlM_connect hm hfree Standard.rows []
      rw [hbare] at hloaded
      exact hloaded

lemma eq_joined_of_withStandard {m' : Topology} (hm : m.ids.Nodup) (h : m.withStandard = .ok m') :
    (∀ s : StandardState, s.id ∉ m.ids) ∧ m' = m.joined Standard.rows := by
  rw [withStandard_eq hm] at h
  split at h
  · cases h
  · next hfree =>
      cases h
      exact ⟨taken?_eq_none_iff.mp hfree, rfl⟩

lemma id_mem_of_taken? {s : StandardState} (h : m.taken? = some s) : s.id ∈ m.ids := by
  have hfind : StandardState.all.find? (fun s => m.registers s.id) = some s := h
  have hregisters := List.find?_some hfind
  exact registers_iff.mp hregisters

lemma taken?_of_withStandard {fault : Fault} (hm : m.ids.Nodup)
    (h : m.withStandard = .error fault) :
    ∃ s, m.taken? = some s ∧ fault = .stateAlreadyRegistered s.id := by
  rw [withStandard_eq hm] at h
  split at h
  · next s htaken =>
      cases h
      exact ⟨s, htaken, rfl⟩
  · cases h

end Topology

end ManagedNode
