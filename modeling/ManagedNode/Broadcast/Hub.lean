import ManagedNode.Broadcast.Channel

/-!
Hubs: all the channels of one process, each known by a number that is given out once.

Channels stay when they are closed, so that their receivers can read what is left. Every
function here is that of `Channel`, on the channel with the given number.
-/

namespace ManagedNode

/-- The number of a channel in its hub. -/
abbrev ChannelId := Nat

/-- The channels opened so far, in the order of opening. -/
structure Hub (α : Type) where
  channels : List (Channel α) := []
  deriving Repr

/-- A receiver: the channel that it reads and the next position to be read. -/
structure Receiver where
  channel : ChannelId
  position : Nat
  deriving DecidableEq, Repr

namespace Hub

variable {α : Type} (h : Hub α)

instance : Inhabited (Hub α) := ⟨{}⟩

/-- The channel with a number. -/
def channel? (id : ChannelId) : Option (Channel α) := h.channels[id]?

/-- Change one channel. -/
def modify (id : ChannelId) (f : Channel α → Channel α) : Hub α := ⟨h.channels.modify id f⟩

/-- The number that the next channel will have. -/
def nextId : ChannelId := h.channels.length

/-- Open a channel, under the number `h.nextId`. -/
def establish (capacity : Nat) : Hub α := ⟨h.channels ++ [{ capacity := capacity }]⟩

/-- Does an event sent on this channel reach anybody? -/
def isHeard (id : ChannelId) : Bool := (h.channel? id).any Channel.isHeard

/-- Send an event on a channel. -/
def send (id : ChannelId) (a : α) : Hub α := h.modify id (·.send a)

/-- Close a channel. -/
def close (id : ChannelId) : Hub α := h.modify id Channel.close

/-- A new receiver, which reads what is sent on the channel from now on. -/
def subscribe (id : ChannelId) : Receiver × Hub α :=
  (⟨id, ((h.channel? id).map fun c => c.sent.size).getD 0⟩, h.modify id Channel.subscribe)

/-- Drop a receiver. -/
def leave (r : Receiver) : Hub α := h.modify r.channel Channel.leave

/-- What a receiver finds, and the receiver after that. -/
def receive (r : Receiver) : Received α × Receiver :=
  match h.channel? r.channel with
  | some c => let (found, position) := c.receive r.position; (found, { r with position })
  | none => (.closed, r)

end Hub

end ManagedNode
