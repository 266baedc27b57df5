import ManagedNode.Machine.Outcome

/-!
Taking transitions.

* `Machine.trigger`: move to the goal of a transition and, if asked to, announce the move. The
  checks come first; after them the move stands, also when announcing it fails.
* `Machine.request`: trigger the transition leaving the present state that a `Selector` asks
  for.
-/

namespace ManagedNode

/-- The fault of a request that no transition leaving the state answers. -/
def State.missFault (s : State) : Selector → Fault
  | .byId id => .noSuchTransition s.id id
  | .byLabel label => .noSuchLabel s.label label

namespace Machine

variable {β μ : Type} (m : Machine β μ)

/-! ### Triggering a transition -/

/-- The registered state at one end of a transition; `which` names the end. -/
def endpoint (t : Transition) (id : Option StateId) (which : String) : Except Fault State :=
  match id.bind m.topology.state? with
  | some s => .ok s
  | none => .error (.endpointNotRegistered t.label t.id which)

/-- The registered states at both ends of a transition, its start being looked up first. -/
def endpoints (t : Transition) : Except Fault (State × State) := do
  let start ← m.endpoint t t.start? "start"
  let goal ← m.endpoint t t.goal? "goal"
  return (start, goal)

/-- The machine moved to a registered state. -/
def moveTo (goal : State) : Machine β μ := { m with handle := m.topology.handle? goal.id }

/-- The record of a move, by the labels of the states and of the transition. -/
def moveRecord (start goal transition : String) : Record :=
  ⟨.trace, "lifecycle transition",
    [("start", .text start), ("goal", .text goal), ("transition", .text transition)]⟩

/-- The record of a move that could not be announced. -/
def unannouncedRecord (transition : String) (fault : Fault) : Record :=
  ⟨.warn, s!"state changed but the transition notification failed: {fault.display}",
    [("transition", .text transition)]⟩

/-- A move to the goal of a transition that nobody is told of. -/
def move (t : Transition) (goal : State) : Outcome β μ :=
  { result := .ok ()
    machine := m.moveTo goal
    trace := [.wrote (moveRecord m.currentLabel goal.label t.label)] }

/-- A move from one end of a transition to the other that a boundary is told of. What the
boundary answers is the result; the move stands in any case. -/
def moveAnnounced [Boundary β μ] (t : Transition) (start goal : State) (b : β) : Outcome β μ :=
  let call := Call.announce start goal
  let reply := Boundary.respond call b m.medium
  { result := reply.result
    machine := { m.moveTo goal with boundary := some reply.boundary, medium := reply.medium }
    trace :=
      reply.event call :: .wrote (moveRecord m.currentLabel goal.label t.label) ::
        (match reply.result with
          | .ok () => []
          | .error fault => [.wrote (unannouncedRecord t.label fault)]) }

/-- Move along a transition, whose two ends must be registered. With `announce` a boundary must
be held, and it is told of the move by its two ends; what it answers is the result. -/
def trigger [Boundary β μ] (t : Transition) (announce : Bool) : Outcome β μ :=
  match m.endpoints t with
  | .error fault => m.refuse fault
  | .ok (start, goal) =>
      match announce, m.boundary with
      | false, _ => m.move t goal
      | true, none => m.refuse .noBoundary
      | true, some b => m.moveAnnounced t start goal b

/-! ### Requests -/

/-- Take the first transition leaving the present state that is asked for. -/
def request [Boundary β μ] (q : Selector) (announce : Bool) : Outcome β μ :=
  match m.current? with
  | none => m.refuse .noCurrentState
  | some s =>
      let (found, records) := s.lookup q
      let searched := records.map Event.wrote
      match found with
      | none => { result := .error (s.missFault q), machine := m, trace := searched }
      | some t =>
          let taken := m.trigger t announce
          { taken with trace := searched ++ taken.trace }

end Machine

end ManagedNode
