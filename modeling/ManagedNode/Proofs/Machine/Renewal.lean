import ManagedNode.Machine.Summary
import ManagedNode.Topology.Dump
import ManagedNode.Proofs.Machine.Image

/-!
A machine that was taken down is as good as new.

It is not equal to a new one, since its topology is of a later generation. It is an image of a new
one, though (`Machine.machine_tearDown`), and a generation shows nowhere.

* `Machine.View`: all that can be seen of a machine between two actions.
* `Machine.Action`, `Machine.act`: operations, and what is done to the boundary that is held or to
  its medium. The one thing left out is to overwrite the topology with a copy that brings its own
  generation.
* `Machine.observe`: the results, the traces and the views along a run of actions.
* `Machine.tearDown_renews`: no run of actions tells a machine that was taken down from a new one.
-/

namespace ManagedNode

namespace Machine

/-- All that can be seen of a machine, its summary and its printed topology included. -/
structure View (β μ : Type) where
  current : Option State
  available : List Transition
  states : List State
  transitions : List Transition
  options : Options
  ready : Bool
  boundary : Option β
  medium : μ
  summary : String
  rendered : String
  printed : List Record

/-- What a host or others can do. -/
inductive Action (β μ : Type)
  | operate (op : Operation β)
  /-- The boundary that is held is called in place. -/
  | call (call : Call)
  /-- The boundary that is held is changed in place, or its medium by others. -/
  | disturb (f : β → β) (medium : μ)

variable {β μ : Type} [Boundary β μ]

/-- What can be seen of a machine now. -/
def view (m : Machine β μ) : View β μ where
  current := m.current?
  available := m.available
  states := m.topology.states
  transitions := m.topology.transitions
  options := m.options
  ready := m.isReady
  boundary := m.boundary
  medium := m.medium
  summary := m.summary
  rendered := m.topology.render
  printed := m.topology.records

/-- The outcome of an action. A call without a boundary to be called does nothing. -/
def act (m : Machine β μ) : Action β μ → Outcome β μ
  | .operate op => m.perform op
  | .call call => (m.callHeld call).getD { result := .ok (), machine := m }
  | .disturb f medium =>
      { result := .ok (), machine := { m with boundary := m.boundary.map f, medium } }

/-- What is seen of an action: its result, its trace and the machine after it. -/
structure Sight (β μ : Type) where
  result : Except Fault Unit
  trace : List Event
  view : View β μ

/-- What is seen along a run of actions. -/
def observe (m : Machine β μ) : List (Action β μ) → List (Sight β μ)
  | [] => []
  | a :: actions =>
      let o := m.act a
      ⟨o.result, o.trace, o.machine.view⟩ :: o.machine.observe actions

/-! ### A generation shows nowhere -/

variable (m : Machine β μ) (k : ℕ)

/-- The machine with its topology `k` generations later. -/
def later (m : Machine β μ) (k : ℕ) : Machine β μ := m.image (.refl β) k

lemma topology_later : (m.later k).topology = m.topology.later k := rfl

lemma options_later : (m.later k).options = m.options := rfl

lemma boundary_later : (m.later k).boundary = m.boundary := by
  simp [later, Boundary.Hom.refl]

lemma current?_later : (m.later k).current? = m.current? := m.current?_image (.refl β) k

lemma summary_later : (m.later k).summary = m.summary := by
  have hcurrent : (m.later k).currentSummary = m.currentSummary := by
    rw [currentSummary, currentSummary, current?_later]
  unfold summary
  rw [hcurrent, options_later, boundary_later, topology_later, Topology.states_later,
    Topology.transitions_later]

lemma view_later : (m.later k).view = m.view := by
  have havailable : (m.later k).available = m.available := m.available_image (.refl β) k
  have hready : (m.later k).isReady = m.isReady := m.isReady_image (.refl β) k
  rw [view, current?_later, havailable, options_later, hready, boundary_later, summary_later]
  rfl

lemma callHeld_later (call : Call) :
    (m.later k).callHeld call =
      (m.callHeld call).map fun o => { o with machine := o.machine.later k } := by
  rw [callHeld, callHeld, boundary_later, Option.map_map]
  rfl

/-- The step: an action comes to the same in a later generation. -/
lemma act_later (a : Action β μ) :
    (m.later k).act a = { m.act a with machine := (m.act a).machine.later k } := by
  cases a with
  | operate op =>
      have hop : op.map (Boundary.Hom.refl β).boundary = op := by cases op <;> rfl
      have hperform := m.perform_image (.refl β) k op
      rwa [hop] at hperform
  | call call =>
      rw [act, act, callHeld_later]
      cases m.callHeld call <;> rfl
  | disturb f medium =>
      simp [act, later, image, Boundary.Hom.refl, Function.comp_def]

/-- The run: all that is seen along a run of actions is the same in a later generation. -/
lemma observe_later (actions : List (Action β μ)) :
    (m.later k).observe actions = m.observe actions := by
  induction actions generalizing m with
  | nil => rfl
  | cons a actions ih => simp only [observe, act_later, view_later, ih]

/-! ### Taking a machine down -/

/-- What is left of a machine that was taken down is a new machine, some generations later. -/
lemma machine_tearDown :
    m.tearDown.machine =
      later { medium := m.tearDown.machine.medium } (m.topology.generation + 1) := by
  rw [tearDown]
  cases m.boundary with
  | none => simp [later, image, emptied, Topology.clear, Topology.later, Boundary.Hom.refl]
  | some b => simp [later, image, emptied, Topology.clear, Topology.later, Boundary.Hom.refl]

/-- Taking a machine down answers what the boundary answers to going down, if one is held. -/
lemma result_tearDown :
    m.tearDown.result = match m.boundary with
      | none => .ok ()
      | some b => (Boundary.respond .tearDown b m.medium).result := by
  rw [tearDown]
  cases m.boundary <;> rfl

/-- **A machine that was taken down is as good as new**: taking it down answers what its boundary
answers, and from then on nothing that is done to it and to a new machine, in the same medium,
shows any difference. Taking it down again succeeds, and calls nobody. -/
theorem tearDown_renews :
    let fresh : Machine β μ := { medium := m.tearDown.machine.medium }
    (m.tearDown.result = match m.boundary with
      | none => .ok ()
      | some b => (Boundary.respond .tearDown b m.medium).result) ∧
    m.tearDown.machine.view = fresh.view ∧
    (∀ actions, m.tearDown.machine.observe actions = fresh.observe actions) ∧
    m.tearDown.machine.tearDown.result = .ok () ∧ m.tearDown.machine.tearDown.trace = [] := by
  intro fresh
  have hmachine : m.tearDown.machine = fresh.later (m.topology.generation + 1) := m.machine_tearDown
  have hagain : m.tearDown.machine.boundary = none := by
    rw [hmachine]
    rfl
  refine ⟨m.result_tearDown, ?_, fun actions => ?_, ?_, ?_⟩
  · rw [hmachine, view_later]
  · rw [hmachine, observe_later]
  · rw [result_tearDown, hagain]
  · rw [tearDown, hagain]

end Machine

end ManagedNode
