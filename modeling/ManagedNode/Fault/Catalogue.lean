import ManagedNode.Fault

/-!
The faults that the engine raises itself, each with its one wording. Boundaries and sinks may
answer with any other `Fault`.
-/

namespace ManagedNode

namespace Fault

/-! ### Making and registering states and transitions -/

/-- A state must have a label. -/
def emptyStateLabel (id : StateId) : Fault :=
  ⟨.lifecycle, .invalidArgument, .error, s!"state {id} label must not be empty", .nothing⟩

/-- A transition must have a label. -/
def emptyTransitionLabel (id : TransitionId) : Fault :=
  ⟨.lifecycle, .invalidArgument, .error, s!"transition {id} label must not be empty", .nothing⟩

/-- A state id is registered once. -/
def stateAlreadyRegistered (id : StateId) : Fault :=
  ⟨.registry, .stateAlreadyRegistered, .error, s!"state {id} is already registered", .state id⟩

/-- An endpoint, or a state to be occupied, is absent from the topology. -/
def stateNotRegistered (id : StateId) : Fault :=
  ⟨.registry, .stateNotRegistered, .error, s!"state {id} is not registered", .state id⟩

/-- A cleared transition connects nothing. -/
def noEndpoints (id : TransitionId) : Fault :=
  ⟨.registry, .invalidArgument, .error, s!"transition {id} has no start or goal state",
    .nothing⟩

/-- The storage called `what` could not grow, for the given reason. -/
def storageExhausted (what reason : String) : Fault :=
  ⟨.registry, .storageExhausted, .fatal, s!"failed to grow {what}", .context "alloc" reason⟩

/-- The reason given when more room is asked for than any collection may have. -/
def capacityExceeded : String :=
  "memory allocation failed because the computed capacity exceeded the collection's maximum"

/-! ### Running a machine -/

/-- No transition with this id leaves the state. -/
def noSuchTransition (origin : StateId) (via : TransitionId) : Fault :=
  ⟨.lifecycle, .invalidArgument, .warn, "invalid lifecycle transition", .edge origin via⟩

/-- No transition with this label leaves the state called `origin`. -/
def noSuchLabel (origin label : String) : Fault :=
  ⟨.lifecycle, .invalidArgument, .warn,
    s!"no transition labeled '{label}' leaves state '{origin}'", .context "label" label⟩

/-- One end of a transition, named by `which`, is not in the topology. -/
def endpointNotRegistered (label : String) (id : TransitionId) (which : String) : Fault :=
  ⟨.lifecycle, .invalidArgument, .warn,
    s!"transition '{label}' ({id}) has no registered {which} state", .transition id⟩

/-- A request was made of a machine that occupies no state. -/
def noCurrentState : Fault :=
  ⟨.lifecycle, .invalidArgument, .error, "state machine has no current state", .nothing⟩

/-- A machine holds one boundary at a time. -/
def alreadyUp : Fault :=
  ⟨.lifecycle, .invalidState, .error, "state machine is already initialized", .nothing⟩

/-- A transition was to be announced, and no boundary is held. -/
def noBoundary : Fault :=
  ⟨.communication, .invalidState, .error,
    "cannot publish transition: com interface is not initialized", .nothing⟩

/-! ### Broadcasting -/

/-- A node that broadcasts must have a name. -/
def emptyNodeName : Fault :=
  ⟨.communication, .invalidArgument, .error, "node name must not be empty", .nothing⟩

/-- A broadcaster has one channel at a time. -/
def broadcasterAlreadyUp (node : String) : Fault :=
  ⟨.communication, .invalidState, .error, "com interface is already initialized",
    .context "node" node⟩

/-- The broadcaster has no channel, so that `action` cannot be done. -/
def broadcasterDown (action : String) : Fault :=
  ⟨.communication, .invalidState, .warn,
    s!"cannot {action}: com interface is not initialized", .nothing⟩

/-- A sink refused an event, with the text `reason`. -/
def deliveryFailed (reason : String) : Fault :=
  ⟨.communication, .transport, .warn, s!"transition event publish failed: {reason}", .nothing⟩

/-! ### Serving requests -/

/-- A holder of the machine's lock failed while it held the lock. -/
def lockPoisoned : Fault :=
  ⟨.lifecycle, .invalidState, .error, "state machine mutex poisoned",
    .context "where" "LifecycleService"⟩

/-- The machine holds no boundary that serves requests. -/
def notServing : Fault :=
  ⟨.communication, .invalidState, .warn,
    "lifecycle services are not enabled on this state machine", .nothing⟩

/-- The present state was asked for, and there is none. -/
def nothingOccupied : Fault :=
  ⟨.lifecycle, .notFound, .warn, "state machine has no current state", .nothing⟩

end Fault

end ManagedNode
