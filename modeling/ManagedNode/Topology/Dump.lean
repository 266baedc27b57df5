import ManagedNode.Topology

/-!
A topology written out in full, in two forms: as one text, and as records for the log.

* `Topology.render`: every line of every state, each ended by a line break.
* `Topology.records`: one record for each state, followed by one for each transition leaving it.
-/

namespace ManagedNode

/-- The lines that describe a state: its name, the number of transitions leaving it, and each
of these in turn. -/
def State.lines (s : State) : List String :=
  s!"Primary State: {s.label}({s.id})" ::
  s!"# of valid transitions: {s.outgoing.length}" ::
  s.outgoing.map fun t => s!"\tNode {s.label} has transition {t.label}"

namespace Topology

/-- The whole topology as text. -/
def render (m : Topology) : String :=
  String.join ((m.states.flatMap State.lines).map fun line => s!"{line}\n")

/-- The record that opens a state in the log. -/
def stateRecord (s : State) : Record :=
  ⟨.info,
    s!"Primary State: {s.label}({s.id})\n# of valid transitions: {s.outgoing.length}", []⟩

/-- The record of one transition leaving a state. -/
def edgeRecord (s : State) (t : Transition) : Record :=
  ⟨.info, s!"\tNode {s.label} has transition {t.label}", []⟩

/-- The whole topology as records. -/
def records (m : Topology) : List Record :=
  m.states.flatMap fun s => stateRecord s :: s.outgoing.map (edgeRecord s)

end Topology

end ManagedNode
