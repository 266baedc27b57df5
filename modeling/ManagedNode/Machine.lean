import ManagedNode.Boundary
import ManagedNode.Options
import ManagedNode.Topology.Standard

/-!
Machines: a topology, the state that is occupied in it, and a boundary to announce through.

* `Handle`: how the occupied state is kept, as a position in one generation of the topology.
  Clearing the topology, by whatever hand, leaves no handle that resolves.
* `Machine`, `Machine.current?`, `Machine.available`, `Machine.isReady`.
* `Machine.occupy`, `Machine.loadStandard`: the state occupied at first.
-/

namespace ManagedNode

/-- The position of a state in one generation of a topology. Generations never come round, so that a
handle of one is never taken for a handle of another. -/
structure Handle where
  position : Nat
  generation : Nat
  deriving DecidableEq, Repr

namespace Topology

/-- The handle of the state with this id. -/
def handle? (m : Topology) (id : StateId) : Option Handle :=
  (m.position? id).map fun position => ⟨position, m.generation⟩

/-- The state that a handle stands for, while the topology is of the handle's generation. -/
def resolve? (m : Topology) (h : Handle) : Option State :=
  if h.generation = m.generation then m.stateAt? h.position else none

/-- No handle taken before a clearing resolves after it. -/
theorem resolve?_of_generation_ne {m : Topology} {h : Handle}
    (hne : h.generation ≠ m.generation) : m.resolve? h = none := if_neg hne

end Topology

/-- A lifecycle state machine over boundaries of type `β`. -/
structure Machine (β μ : Type) where
  topology : Topology := {}
  /-- The state occupied, if one has been. -/
  handle : Option Handle := none
  options : Options := {}
  /-- The boundary held, if the machine has been brought up with one. -/
  boundary : Option β := none
  /-- What the boundaries of this machine share with those of others. -/
  medium : μ

namespace Machine

variable {β μ : Type}

/-- The state occupied now. -/
def current? (m : Machine β μ) : Option State := m.handle.bind m.topology.resolve?

/-- The label of the state occupied now, empty if there is none. -/
def currentLabel (m : Machine β μ) : String := (m.current?.map State.label).getD ""

/-- The transitions leaving the state occupied now. -/
def available (m : Machine β μ) : List Transition := (m.current?.map State.outgoing).getD []

/-- Is there a topology and, if the services were asked for, a boundary that serves? -/
def isReady [Boundary β μ] (m : Machine β μ) : Bool :=
  !m.topology.states.isEmpty && (!m.options.services || m.boundary.any Boundary.serving)

/-- The machine with another topology. The handle is kept, and resolves in the new topology if
this has the same generation. -/
def withTopology (m : Machine β μ) (topology : Topology) : Machine β μ := { m with topology }

/-- Occupy a registered state without a transition. -/
def occupy (m : Machine β μ) (id : StateId) : Except Fault (Machine β μ) :=
  match m.topology.handle? id with
  | none => .error (.stateNotRegistered id)
  | some handle => .ok { m with handle := some handle }

/-- Load the standard lifecycle and occupy its initial state. After a refusal the topology is
empty and no state is occupied. -/
def loadStandard (m : Machine β μ) : Except Fault Unit × Machine β μ :=
  match m.topology.loadStandard with
  | (.error fault, topology) => (.error fault, { m with topology, handle := none })
  | (.ok (), topology) =>
      match (m.withTopology topology).occupy StandardState.initial.id with
      | .ok started => (.ok (), started)
      | .error fault => (.error fault, m.withTopology topology)

end Machine

end ManagedNode
