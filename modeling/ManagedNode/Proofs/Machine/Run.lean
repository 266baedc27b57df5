import ManagedNode.Proofs.Machine.Step
import ManagedNode.Proofs.Topology.Invariant

/-!
Runs of a machine.

* `Machine.Operation`, `Machine.perform`, `Machine.run`: what a host can do with a machine, edits
  of its topology included, and a sequence of it.
* `Machine.Operation.isInward`, `Machine.inward_induction`: the operations that never reach the
  boundary, which change the topology and the handle alone.
* `Machine.Reachable`: the machines that hosts can come by. Beside the operations, the topology
  may be overwritten by another reachable one, and the boundary held or its medium may be changed
  from outside in any way.
* `Reachable.topology`: the topology of a reachable machine is a reachable topology, so that its
  invariant holds (`Reachable.wellFormed`).
-/

namespace ManagedNode

namespace Topology

variable {m m' : Topology}

lemma Reachable.clear (h : m.Reachable) : m.clear.Reachable := h.perform .clear

lemma Reachable.withStandard (h : m.Reachable) (hw : m.withStandard = .ok m') :
    m'.Reachable := by
  have hl : (m.perform .loadStandard).2 = m' := by rw [Topology.perform, loadStandard, hw]
  exact hl ▸ h.perform .loadStandard

end Topology

namespace Machine

/-- What a host can do with a machine. -/
inductive Operation (β : Type)
  | bringUp (b : β) (options : Options)
  | loadStandard
  | occupy (id : StateId)
  | trigger (t : Transition) (announce : Bool)
  | request (q : Selector) (announce : Bool)
  | tearDown
  /-- The topology of the machine is edited behind its back. -/
  | edit (e : Topology.Edit)

variable {β μ : Type} [Boundary β μ] {m : Machine β μ}

/-- The outcome of an operation. -/
def perform (m : Machine β μ) : Operation β → Outcome β μ
  | .bringUp b options => m.bringUp b options
  | .loadStandard => { result := m.loadStandard.1, machine := m.loadStandard.2 }
  | .occupy id =>
      match m.occupy id with
      | .ok occupying => { result := .ok (), machine := occupying }
      | .error fault => m.refuse fault
  | .trigger t announce => m.trigger t announce
  | .request q announce => m.request q announce
  | .tearDown => m.tearDown
  | .edit e =>
      { result := (m.topology.perform e).1
        machine := m.withTopology (m.topology.perform e).2 }

/-- Is this an operation that never reaches the boundary? -/
def Operation.isInward : Operation β → Bool
  | loadStandard => true
  | occupy _ => true
  | edit _ => true
  | _ => false

/-- What does not depend on the topology and the handle is kept by such an operation. -/
lemma inward_induction {P : Machine β μ → Prop} {op : Operation β} (hop : op.isInward = true)
    (h : ∀ topology handle, P { m with topology, handle }) : P (m.perform op).machine := by
  cases op with
  | loadStandard =>
      rcases m.loadStandard_cases with ⟨loaded, -, hl⟩ | ⟨fault, -, hl⟩ <;>
        (rw [perform, hl]; exact h _ _)
  | occupy id =>
      rcases m.occupy_cases id with ⟨-, ho⟩ | ⟨-, ho⟩ <;> (rw [perform, ho]; exact h _ _)
  | edit e => exact h _ _
  | _ => cases hop

/-- The machine after a sequence of operations. -/
def run (m : Machine β μ) : List (Operation β) → Machine β μ
  | [] => m
  | op :: ops => (m.perform op).machine.run ops

/-- The machines that hosts can come by. -/
inductive Reachable : Machine β μ → Prop
  | zero (medium : μ) : Reachable { medium }
  | perform {m : Machine β μ} (op : Operation β) : Reachable m → Reachable (m.perform op).machine
  /-- The topology is overwritten by a copy of another. -/
  | overwrite {m : Machine β μ} {topology : Topology} :
      Reachable m → topology.Reachable → Reachable (m.withTopology topology)
  /-- The boundary that is held is changed in place, or its medium by others. -/
  | disturb {m : Machine β μ} (f : β → β) (medium : μ) :
      Reachable m → Reachable { m with boundary := m.boundary.map f, medium }

/-! ### The topology along a run -/

lemma BroughtUp.topology_reachable {b : β} {options : Options} {o : Outcome β μ}
    (h : BroughtUp m b options o) (hm : m.topology.Reachable) : o.machine.topology.Reachable := by
  cases h with
  | alreadyUp => exact hm
  | boundaryFailed => exact hm
  | furnished _ _ _ hf =>
      cases hf with
      | bare => exact hm
      | loaded _ hload => exact hm.withStandard hload
      | abandoned => exact hm.clear.clear

/-- One operation leads from a reachable topology to a reachable topology. -/
lemma topology_perform (hm : m.topology.Reachable) (op : Operation β) :
    (m.perform op).machine.topology.Reachable := by
  cases op with
  | bringUp b options => exact (m.broughtUp b options).topology_reachable hm
  | loadStandard =>
      rcases m.loadStandard_cases with ⟨loaded, hw, hl⟩ | ⟨fault, -, hl⟩
      · rw [perform, hl]
        exact hm.withStandard hw
      · rw [perform, hl]
        exact hm.clear
  | occupy id =>
      rcases m.occupy_cases id with ⟨-, ho⟩ | ⟨-, ho⟩ <;> (rw [perform, ho]; exact hm)
  | trigger t announce => exact (m.triggered t announce).topology_eq.symm ▸ hm
  | request q announce =>
      exact request_induction (P := fun m' => m'.topology.Reachable) hm fun t =>
        (m.triggered t announce).topology_eq.symm ▸ hm
  | tearDown => exact m.tearDown_eq.1.symm ▸ hm.clear
  | edit e => exact hm.perform e

/-- The topology that operations lead to is reachable. -/
lemma topology_run (hm : m.topology.Reachable) (ops : List (Operation β)) :
    (m.run ops).topology.Reachable := by
  induction ops generalizing m with
  | nil => exact hm
  | cons op ops ih => exact ih (topology_perform hm op)

lemma Reachable.topology (h : m.Reachable) : m.topology.Reachable := by
  induction h with
  | zero => exact .empty
  | perform op _ ih => exact topology_perform ih op
  | overwrite _ ht => exact ht
  | disturb _ _ _ ih => exact ih

lemma Reachable.run (h : m.Reachable) (ops : List (Operation β)) : (m.run ops).Reachable := by
  induction ops generalizing m with
  | nil => exact h
  | cons op ops ih => exact ih (h.perform op)

/-- A call made straight to the boundary that is held is a disturbance. -/
lemma Reachable.callHeld {call : Call} {o : Outcome β μ} (h : m.Reachable)
    (ho : m.callHeld call = some o) : o.machine.Reachable := by
  obtain ⟨b, hb, rfl⟩ := Option.map_eq_some_iff.mp ho
  have hdisturbed := h.disturb (fun b => (Boundary.respond call b m.medium).boundary)
    (Boundary.respond call b m.medium).medium
  rwa [hb] at hdisturbed

lemma Reachable.wellFormed (h : m.Reachable) : m.topology.WellFormed := h.topology.wellFormed

end Machine

end ManagedNode
