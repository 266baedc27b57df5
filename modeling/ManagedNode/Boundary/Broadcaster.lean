import ManagedNode.Boundary
import ManagedNode.Broadcast.Hub
import ManagedNode.Topology.Description

/-!
Broadcasters: the boundary of one node in a process, which announces every transition on a
channel, under a topic of its own.

* `Broadcaster.respond`: coming up opens a new channel, announcing sends a `Notice` on it, and
  going down closes it. Announcing waits for nobody: a receiver that is too slow loses the
  oldest notices, and a notice that nobody hears is only noted in the log.
* `Broadcaster.release`: a channel goes with its broadcaster, when this goes down or is dropped.
* `Broadcaster.subscribe?`: a receiver for the notices sent from now on.
* `ServiceNames`: where the requests of a node arrive.
-/

namespace ManagedNode

/-- What is announced of a transition: the states that it left and entered. -/
structure Notice where
  start : StateDescription
  goal : StateDescription
  deriving DecidableEq, Repr

/-- The notice of a move from one state to another. -/
def Notice.between (start goal : State) : Notice := ⟨start.description, goal.description⟩

/-- The full names under which a node serves requests. -/
structure ServiceNames where
  changeState : String
  getState : String
  getAvailableStates : String
  getAvailableTransitions : String
  getTransitionGraph : String
  deriving DecidableEq, Repr

/-- The service names of a node. -/
def ServiceNames.ofNode (node : String) : ServiceNames where
  changeState := s!"{node}/change_state"
  getState := s!"{node}/get_state"
  getAvailableStates := s!"{node}/get_available_states"
  getAvailableTransitions := s!"{node}/get_available_transitions"
  getTransitionGraph := s!"{node}/get_transition_graph"

/-- A boundary that broadcasts the transitions of one node. -/
structure Broadcaster where
  node : String
  /-- The channel that announcements are sent on, once the broadcaster is up. -/
  publisher : Option ChannelId := none
  /-- The names of the services, once these are up as well. -/
  services : Option ServiceNames := none
  deriving DecidableEq, Repr

namespace Broadcaster

/-- How many notices a receiver may be behind before it starts to lose the oldest. -/
def channelCapacity : Nat := 32

variable (b : Broadcaster)

/-- The topic of the node's notices. -/
def topic : String := s!"{b.node}/transition_event"

/-- Are the services up? -/
def serving : Bool := b.services.isSome

/-- The names of the services, while they are up. -/
def serviceNames? : Option ServiceNames := b.services

/-- The record of a broadcaster that has come up. -/
def upRecord (services : Bool) : Record :=
  ⟨.debug, "lifecycle com interface up", [("node", .text b.node), ("services", .flag services)]⟩

/-- The record of a notice that nobody heard. -/
def unheardRecord : Record :=
  ⟨.debug, "transition event dropped: no subscribers", [("topic", .text b.topic)]⟩

/-- The services after coming up in a mode: those of the node in full mode, and what there was
before otherwise. -/
def servicesAfter (mode : Mode) : Option ServiceNames :=
  if mode = .full then some (.ofNode b.node) else b.services

/-- Open a channel, unless the node has no name or has one open already. -/
def bringUp (mode : Mode) (h : Hub Notice) : Reply Broadcaster (Hub Notice) :=
  if b.node = "" then { result := .error .emptyNodeName, boundary := b, medium := h }
  else if b.publisher.isSome then
    { result := .error (.broadcasterAlreadyUp b.node), boundary := b, medium := h }
  else
    { result := .ok ()
      boundary := { b with publisher := some h.nextId, services := b.servicesAfter mode }
      medium := h.establish channelCapacity
      records := [b.upRecord (b.servicesAfter mode).isSome] }

/-- Send a notice on the open channel. -/
def announce (start goal : State) (h : Hub Notice) : Reply Broadcaster (Hub Notice) :=
  match b.publisher with
  | none =>
      { result := .error (.broadcasterDown "publish transition event"), boundary := b
        medium := h }
  | some channel =>
      { result := .ok (), boundary := b
        medium := h.send channel (.between start goal)
        records := if h.isHeard channel then [] else [b.unheardRecord] }

/-- The hub when the broadcaster lets go of its channel, as it does when it is dropped. -/
def release (h : Hub Notice) : Hub Notice :=
  match b.publisher with
  | none => h
  | some channel => h.close channel

/-- Take the services down and close the channel, if one is open. -/
def tearDown (h : Hub Notice) : Reply Broadcaster (Hub Notice) where
  result := .ok ()
  boundary := { b with services := none, publisher := none }
  medium := b.release h

/-- How a broadcaster responds to a call. -/
def respond (call : Call) (h : Hub Notice) : Reply Broadcaster (Hub Notice) :=
  match call with
  | .bringUp mode => b.bringUp mode h
  | .announce start goal => b.announce start goal h
  | .tearDown => b.tearDown h

instance : Boundary Broadcaster (Hub Notice) := ⟨fun call b h => b.respond call h, serving⟩

/-- A new receiver on the open channel. -/
def subscribe? (h : Hub Notice) : Except Fault (Receiver × Hub Notice) :=
  match b.publisher with
  | none => .error (.broadcasterDown "subscribe")
  | some channel => .ok (h.subscribe channel)

end Broadcaster

end ManagedNode
