import ManagedNode.Proofs.Machine.Run

/-!
The occupied state is the one installed last.

A machine keeps the state it occupies as a handle: a position, good for one generation of the
topology. Here it is compared with the plain id of the state installed last, which is forgotten
whenever the topology is cleared, by whatever hand.

* `Topology.Tracks`: a handle stands for an id, or is of an earlier generation and stands for
  nothing. Extending the topology keeps this (`Tracks.toExtends`), clearing it leaves a handle
  that stands for nothing (`Tracks.clear`).
* `Machine.lastAfter`, `Machine.lastOf`: the id installed last, after an operation and a run. The
  handle is not read here.
* `Machine.current?_run`: along every run, the state occupied is the one registered under the id
  installed last, and there is one exactly while there is such an id.
-/

namespace ManagedNode

namespace Topology

variable {m m' : Topology} {handle : Option Handle} {last : Option StateId}

/-- The handle stands for the id `last`, or for nothing. -/
def Tracks (m : Topology) (handle : Option Handle) : Option StateId → Prop
  | some id => id ∈ m.ids ∧ handle = m.handle? id
  | none => ∀ h ∈ handle, h.generation < m.generation

lemma tracks_none : m.Tracks none none := by simp [Tracks]

lemma tracks_handle? {id : StateId} (hid : id ∈ m.ids) : m.Tracks (m.handle? id) (some id) :=
  ⟨hid, rfl⟩

namespace Tracks

/-- What the handle resolves to is the state registered under the id it stands for. -/
lemma bind_resolve? (h : m.Tracks handle last) :
    handle.bind m.resolve? = last.bind m.state? := by
  cases last with
  | some id =>
      obtain ⟨-, rfl⟩ := h
      exact bind_handle?_resolve?
  | none =>
      cases handle with
      | none => rfl
      | some h' =>
          have hlt : h'.generation < m.generation := h h' rfl
          exact resolve?_of_generation_ne (by omega)

/-- No handle is of a later generation than the topology. -/
lemma generation_le (h : m.Tracks handle last) : ∀ h' ∈ handle, h'.generation ≤ m.generation := by
  intro h' hh'
  cases last with
  | some id =>
      obtain ⟨-, rfl⟩ := h
      obtain ⟨i, -, rfl⟩ := Option.map_eq_some_iff.mp hh'
      exact le_rfl
  | none =>
      have hlt : h'.generation < m.generation := h h' hh'
      omega

lemma toExtends (h : m.Tracks handle last) (hext : m.Extends m') : m'.Tracks handle last := by
  cases last with
  | some id =>
      obtain ⟨hid, rfl⟩ := h
      obtain ⟨i, hi⟩ := exists_position? hid
      refine ⟨hext.mem_ids hid, ?_⟩
      rw [handle?, handle?, hi, hext.position?_eq hi, hext.generation_eq]
  | none =>
      intro h' hh'
      rw [hext.generation_eq]
      exact h h' hh'

/-- Clearing the topology outdates every handle. -/
lemma clear (h : m.Tracks handle last) : m.clear.Tracks handle none := by
  intro h' hh'
  have hle : h'.generation ≤ m.generation := h.generation_le h' hh'
  rw [generation_clear]
  omega

end Tracks

end Topology

namespace Machine

variable {β μ : Type} [Boundary β μ] {m : Machine β μ} {last : Option StateId}

/-- The id installed last, after a transition is triggered: its goal if it is taken, also when
that cannot be announced. -/
def lastAfterTrigger (m : Machine β μ) (last : Option StateId) (t : Transition)
    (announce : Bool) : Option StateId :=
  if m.takes t announce then t.goal? else last

/-- The id installed last, after an operation on a machine where it was `last`: an operation that
succeeds in occupying a state installs it, and so does a transition that is taken; an operation
that clears the topology leaves none. -/
def lastAfter (m : Machine β μ) (last : Option StateId) (op : Operation β) : Option StateId :=
  let succeeds := (m.perform op).result.isOk
  match op with
  | .bringUp b options =>
      if m.builds b options then
        if succeeds then some StandardState.initial.id else none
      else last
  | .loadStandard => if succeeds then some StandardState.initial.id else none
  | .occupy id => if succeeds then some id else last
  | .trigger t announce => m.lastAfterTrigger last t announce
  | .request q announce =>
      match (last.bind m.topology.state?).bind fun s => s.find? q with
      | none => last
      | some t => m.lastAfterTrigger last t announce
  | .tearDown => none
  | .edit .loadStandard => if succeeds then last else none
  | .edit .clear => none
  | .edit _ => last

/-- The id installed last, after a run. -/
def lastOf (m : Machine β μ) (last : Option StateId) : List (Operation β) → Option StateId
  | [] => last
  | op :: ops => (m.perform op).machine.lastOf (m.lastAfter last op) ops

/-- The handle of the machine stands for the id `last`. -/
def Tracks (m : Machine β μ) (last : Option StateId) : Prop := m.topology.Tracks m.handle last

omit [Boundary β μ] in
/-- A transition that is taken leads to a registered state. -/
lemma tracks_goal {t : Transition} {announce : Bool} (h : m.takes t announce = true) :
    m.topology.Tracks (t.goal?.bind m.topology.handle?) t.goal? := by
  simp only [takes, Bool.and_eq_true] at h
  obtain ⟨⟨-, hgoal⟩, -⟩ := h
  cases hg : t.goal? with
  | none => simp [hg] at hgoal
  | some id =>
      rw [hg] at hgoal
      exact Topology.tracks_handle? (Topology.registers_iff.mp hgoal)

namespace Tracks

omit [Boundary β μ] in
/-- The state occupied is the one registered under the id. -/
lemma current?_eq (h : m.Tracks last) : m.current? = last.bind m.topology.state? :=
  h.bind_resolve?

omit [Boundary β μ] in
lemma map_id_current? (h : m.Tracks last) : m.current?.map State.id = last := by
  rw [h.current?_eq]
  cases last with
  | none => rfl
  | some id =>
      obtain ⟨s, hs⟩ := Topology.exists_state? h.1
      simp [hs, Topology.id_of_state? hs]

lemma trigger (h : m.Tracks last) (t : Transition) (announce : Bool) :
    (m.trigger t announce).machine.Tracks (m.lastAfterTrigger last t announce) := by
  have ht := m.triggered t announce
  rw [Tracks, ht.topology_eq, ht.handle_eq, lastAfterTrigger]
  split_ifs with htakes
  · exact tracks_goal htakes
  · exact h

/-- Bringing up installs the initial state, or nothing, once it gets as far as the topology. -/
lemma broughtUp {b : β} {options : Options} {o : Outcome β μ} (h : m.Tracks last)
    (ho : BroughtUp m b options o) :
    o.machine.Tracks
      (if m.builds b options then
        if o.result.isOk then some StandardState.initial.id else none
      else last) := by
  cases ho with
  | alreadyUp hb =>
      obtain ⟨held, hheld⟩ := Option.isSome_iff_exists.mp hb
      have hbuilds : m.builds b options = false := by simp [builds, hheld]
      rw [hbuilds]
      exact h
  | boundaryFailed hb hreply hfault =>
      have hbuilds : m.builds b options = false := by
        simp [builds, hreply, hfault, Except.isOk, Except.toBool]
      rw [hbuilds]
      exact h
  | furnished hb hreply hok hfurnished =>
      have hbuilds : m.builds b options = options.standardStates := by
        simp [builds, hb, hreply, hok, Except.isOk, Except.toBool]
      rw [hbuilds]
      cases hfurnished with
      | bare hbare =>
          rw [show options.standardStates = false from hbare]
          exact h
      | loaded hstandard hload =>
          rw [show options.standardStates = true from hstandard]
          exact Topology.tracks_handle? (Topology.initial_mem_of_withStandard hload)
      | abandoned hstandard hload =>
          rw [show options.standardStates = true from hstandard]
          exact Topology.tracks_none

/-- An edit that clears the topology leaves nothing occupied; any other leaves the handle right. -/
lemma edit (h : m.Tracks last) (e : Topology.Edit) :
    (m.perform (.edit e)).machine.Tracks (m.lastAfter last (.edit e)) := by
  cases e with
  | register state =>
      have hgrows := m.topology.grows_perform_register state
      exact Topology.Tracks.toExtends h hgrows.toExtends
  | connect t =>
      have hgrows := m.topology.grows_perform_connect t
      exact Topology.Tracks.toExtends h hgrows.toExtends
  | loadStandard =>
      rcases m.topology.loadStandard_cases with ⟨loaded, hw, hl⟩ | ⟨fault, -, hl⟩
      · have hgrows := Topology.grows_withStandard hw
        simp only [lastAfter, Machine.perform, Topology.perform, hl]
        exact Topology.Tracks.toExtends h hgrows.toExtends
      · simp only [lastAfter, Machine.perform, Topology.perform, hl]
        exact Topology.Tracks.clear h
  | clear => exact Topology.Tracks.clear h

/-- The step: after an operation, the handle stands for the id installed last. -/
lemma perform (h : m.Tracks last) (op : Operation β) :
    (m.perform op).machine.Tracks (m.lastAfter last op) := by
  cases op with
  | bringUp b options => exact h.broughtUp (m.broughtUp b options)
  | loadStandard =>
      rcases m.loadStandard_cases with ⟨loaded, hw, hl⟩ | ⟨fault, -, hl⟩
      · simp only [lastAfter, Machine.perform, hl]
        exact Topology.tracks_handle? (Topology.initial_mem_of_withStandard hw)
      · simp only [lastAfter, Machine.perform, hl]
        exact Topology.tracks_none
  | occupy id =>
      rcases m.occupy_cases id with ⟨hid, ho⟩ | ⟨-, ho⟩
      · simp only [lastAfter, Machine.perform, ho]
        exact Topology.tracks_handle? hid
      · simp only [lastAfter, Machine.perform, ho]
        exact h
  | trigger t announce => exact h.trigger t announce
  | request q announce =>
      simp only [lastAfter, Machine.perform, machine_request, ← h.current?_eq]
      cases m.current?.bind fun s => s.find? q with
      | none => exact h
      | some t => exact h.trigger t announce
  | tearDown =>
      obtain ⟨ht, hh⟩ := m.tearDown_eq
      simp only [lastAfter, Machine.perform, Tracks, ht, hh]
      exact Topology.tracks_none
  | edit e => exact h.edit e

/-- The run: after any sequence of operations, the handle stands for the id installed last. -/
lemma run (h : m.Tracks last) (ops : List (Operation β)) :
    (m.run ops).Tracks (m.lastOf last ops) := by
  induction ops generalizing m last with
  | nil => exact h
  | cons op ops ih => exact ih (h.perform op)

end Tracks

/-- **The occupied state is the one installed last.** After every run from an empty machine, over
boundaries that answer in any way, a state is occupied exactly while an id has been installed
since the topology was cleared last; it is the state registered under that id, with all the
transitions that are registered to leave it. -/
theorem current?_run (medium : μ) (ops : List (Operation β)) :
    let m := run ({ medium } : Machine β μ) ops
    let last := lastOf ({ medium } : Machine β μ) none ops
    m.current?.map State.id = last ∧
      ∀ s, m.current? = some s →
        m.topology.state? s.id = some s ∧ s.outgoing = m.topology.leaving s.id := by
  intro m last
  have hinit : Tracks ({ medium } : Machine β μ) none := Topology.tracks_none
  have htracks : m.Tracks last := hinit.run ops
  have hwf : m.topology.WellFormed := (topology_run .empty ops).wellFormed
  refine ⟨htracks.map_id_current?, fun s hs => ?_⟩
  have hlast : last = some s.id := by rw [← htracks.map_id_current?, hs]; rfl
  have hstate : m.topology.state? s.id = some s := by
    rw [← hs, htracks.current?_eq, hlast]
    rfl
  exact ⟨hstate, hwf.outgoing_eq s (Topology.mem_of_state? hstate)⟩

end Machine

end ManagedNode
