import ManagedNode.Topology
import ManagedNode.Standard

/-!
Loading the standard lifecycle into a topology, all or nothing.

* `Topology.withStandard`: the topology with the standard states and transitions added, which
  is refused if the id of any standard state is taken.
* `Topology.loadStandard`: the same for a host that must never see half of it: after a refusal
  the topology is cleared.
-/

namespace ManagedNode

/-- The value under which a standard state is registered. -/
def StandardState.state (s : StandardState) : State := { id := s.id, label := s.label }

namespace Topology

/-- Register the standard states. -/
def withStandardStates (m : Topology) : Except Fault Topology :=
  StandardState.all.foldlM (fun m s => m.register s.state) m

/-- Register the standard transitions. -/
def withStandardTransitions (m : Topology) : Except Fault Topology :=
  Standard.rows.foldlM (fun m r => m.connect r.transition) m

/-- Register the standard states and then the transitions between them. -/
def withStandard (m : Topology) : Except Fault Topology :=
  m.withStandardStates >>= withStandardTransitions

/-- The topology with the standard lifecycle in it, or a cleared one and the refusal. -/
def loadStandard (m : Topology) : Except Fault Unit × Topology :=
  match m.withStandard with
  | .ok loaded => (.ok (), loaded)
  | .error fault => (.error fault, m.clear)

end Topology

end ManagedNode
