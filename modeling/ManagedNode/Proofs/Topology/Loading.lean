import ManagedNode.Proofs.Topology.Invariant
import ManagedNode.Proofs.Topology.Standard

/-!
The standard lifecycle is loaded in full, or not at all.

Loading registers eleven states and twenty-five transitions, one after another, in a topology where
anything may be registered already. The first state whose id is taken ends it, after any number of
states have gone in. A host sees none of these: the topology has the whole lifecycle after all that
was there, or it is empty.

* `Topology.FirstTaken`: the standard state that loading stops at. It is what a scan of the table
  finds (`Topology.taken?_eq_some_iff`).
* `Standard.leaving`, `StandardState.along_rows`: the rows that start at a standard state, told by
  its id.
* `Topology.Loads`: what loading comes to, with all that is left. It is shown of every reachable
  topology (`Topology.standard_all_or_nothing`).
-/

namespace ManagedNode

/-- The standard transitions that start at the id of a standard state, in the order of the table. -/
def Standard.leaving (s : StandardState) : List Transition :=
  (Standard.rows.map Standard.Row.transition).filter fun t => t.start? = some s.id

/-- A standard state that has all its rows has the transitions that start at its id. -/
lemma StandardState.along_rows (s : StandardState) :
    s.along Standard.rows =
      { id := s.id, label := s.label, outgoing := Standard.leaving s } := by
  have hstart : ∀ r : Standard.Row, r.transition.start? = some s.id ↔ r.start = s := by
    intro r
    rw [← StandardState.id_inj]
    exact Option.some_inj
  rw [along, Standard.leaving, List.filter_map]
  congr 2
  refine List.filter_congr fun r _ => ?_
  exact decide_eq_decide.mpr (hstart r).symm

namespace Topology

variable {m : Topology} {s : StandardState}

/-- The first state of the standard lifecycle, in the order of registration, whose id is taken. -/
structure FirstTaken (m : Topology) (s : StandardState) : Prop where
  mem_ids : s.id ∈ m.ids
  exists_before : ∃ before after, StandardState.all = before ++ s :: after ∧
    ∀ s' ∈ before, s'.id ∉ m.ids

/-- The scan of the table finds this state. -/
lemma taken?_eq_some_iff : m.taken? = some s ↔ m.FirstTaken s := by
  have hfree : ∀ s' : StandardState, (!m.registers s'.id) = true ↔ s'.id ∉ m.ids := by
    intro s'
    rw [Bool.not_eq_true', ← Bool.not_eq_true, registers_iff]
  rw [taken?, List.find?_eq_some_iff_append, registers_iff]
  simp only [hfree]
  exact ⟨fun h => ⟨h.1, h.2⟩, fun h => ⟨h.mem_ids, h.exists_before⟩⟩

/-- What loading the standard lifecycle comes to: its result, and the topology after it. -/
structure Loads (m : Topology) (r : Except Fault Unit × Topology) : Prop where
  result_eq_ok_iff : r.1 = .ok () ↔ ∀ s : StandardState, s.id ∉ m.ids
  /-- Every state that was there is as it was, and the standard states come after them, each with
  the rows that start at it and no other transition. -/
  of_ok : r.1 = .ok () → r.2 =
    { states := m.states ++ StandardState.all.map fun s =>
        { id := s.id, label := s.label, outgoing := Standard.leaving s }
      transitions := m.transitions ++ Standard.rows.map Standard.Row.transition
      generation := m.generation }
  /-- Nothing is left, neither of the lifecycle nor of what was there before. -/
  of_error : ∀ fault, r.1 = .error fault →
    (∃ s, m.FirstTaken s ∧ fault = .stateAlreadyRegistered s.id) ∧
      r.2 = { states := [], transitions := [], generation := m.generation + 1 }

/-- **The standard lifecycle is loaded in full, or not at all**, into every reachable topology. -/
theorem standard_all_or_nothing (h : m.Reachable) : m.Loads (m.perform .loadStandard) := by
  have hm : m.ids.Nodup := h.wellFormed.ids_nodup
  rw [perform]
  rcases m.loadStandard_cases with ⟨m', hw, hl⟩ | ⟨fault, hw, hl⟩
  · obtain ⟨hfree, rfl⟩ := eq_joined_of_withStandard hm hw
    rw [hl]
    refine ⟨iff_of_true rfl hfree, fun _ => ?_, by simp⟩
    simp only [joined, StandardState.along_rows]
  · obtain ⟨s, htaken, rfl⟩ := taken?_of_withStandard hm hw
    have hfirst : m.FirstTaken s := taken?_eq_some_iff.mp htaken
    rw [hl]
    refine ⟨iff_of_false (by simp) fun hfree => hfree s hfirst.mem_ids, by simp, ?_⟩
    intro fault' hr
    obtain rfl := Except.error.inj hr
    exact ⟨⟨s, hfirst, rfl⟩, rfl⟩

/-- A host with a loop of its own, which shares its names with a standard transition, has the
lifecycle loaded beside it. A host that has taken two standard ids is left with nothing, because of
the one that comes first in the table. -/
theorem standard_all_or_nothing_hosted :
    let loop : Transition := { id := 10, label := "configure", ends := some ⟨42, 42⟩ }
    let host := ({} : Topology).performAll [.register ⟨42, "docked", []⟩, .connect loop]
    let taken := host.performAll [.register ⟨3, "working", []⟩, .register ⟨1, "resting", []⟩]
    host.Reachable ∧ (host.perform .loadStandard).1 = .ok () ∧
      host.Loads (host.perform .loadStandard) ∧ taken.Reachable ∧
      taken.perform .loadStandard = (.error (.stateAlreadyRegistered 1), { generation := 1 }) ∧
      taken.Loads (taken.perform .loadStandard) := by
  intro loop host taken
  have hhost : host.Reachable := Reachable.empty.performAll _
  have htaken : taken.Reachable := hhost.performAll _
  have hfree : ∀ s : StandardState, s.id ∉ host.ids := by
    have hids : host.ids = [42] := rfl
    intro s
    rw [hids]
    cases s <;> decide
  have hloads := standard_all_or_nothing hhost
  exact ⟨hhost, hloads.result_eq_ok_iff.mpr hfree, hloads, htaken, rfl,
    standard_all_or_nothing htaken⟩

end Topology

end ManagedNode
