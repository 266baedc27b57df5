import ManagedNode.Fault.Catalogue
import ManagedNode.Record
import ManagedNode.Broadcast.Hub

/-!
Forwarders: they hand the events of a channel on to a sink, until the channel closes or the
sink refuses one.

* `Forwarder.run`: read and hand on until there is nothing to read. Missed events are skipped
  and reported to the log.
* `Hub.poll`: the same on a channel of a hub; a forwarder that ends drops its receiver.
-/

namespace ManagedNode

/-- Where events are handed on to: what becomes of its state when it accepts one, or why it
does not. -/
abbrev Sink (σ α : Type) := σ → α → Except Fault σ

/-- A forwarder between two polls: what it reads next, and how many events it has handed on. -/
structure Forwarder where
  position : Nat
  forwarded : Nat := 0
  deriving DecidableEq, Repr

/-- How a poll leaves a forwarder. -/
inductive Forwarding
  /-- Everything sent so far has been read, and more may come. -/
  | waiting (forwarder : Forwarder)
  /-- The channel has closed, after so many events, or the sink has refused one. -/
  | ended (result : Except Fault Nat)

/-- Has forwarding ended? -/
def Forwarding.hasEnded : Forwarding → Bool
  | waiting _ => false
  | ended _ => true

/-- What one poll does. -/
structure Poll (σ α : Type) where
  status : Forwarding
  /-- The sink afterwards. -/
  sink : σ
  /-- The events that the sink accepted, in order. -/
  accepted : List α := []
  records : List Record := []

variable {σ α : Type}

/-- The channel after a poll: an ended forwarder no longer listens. -/
def Poll.settle (p : Poll σ α) (c : Channel α) : Channel α :=
  if p.status.hasEnded then c.leave else c

/-- The record of events that a receiver missed. -/
def lagRecord (missed : Nat) : Record :=
  ⟨.warn, "transition event receiver lagged", [("skipped", .count missed)]⟩

/-- Read from the channel and hand on to the sink until there is nothing more to read or the
sink refuses. Every round moves the position on, up to the number of events sent at most. -/
def Forwarder.run (sink : Sink σ α) (c : Channel α) (s : σ) (f : Forwarder) : Poll σ α :=
  match _found : c.receive f.position with
  | (.event a, position) =>
      match sink s a with
      | .ok s' =>
          let rest := run sink c s' ⟨position, f.forwarded + 1⟩
          { rest with accepted := a :: rest.accepted }
      | .error fault => { status := .ended (.error (.deliveryFailed fault.message)), sink := s }
  | (.lagged missed, position) =>
      let rest := run sink c s ⟨position, f.forwarded⟩
      { rest with records := lagRecord missed :: rest.records }
  | (.empty, _) => { status := .waiting f, sink := s }
  | (.closed, _) => { status := .ended (.ok f.forwarded), sink := s }
termination_by c.sent.size - f.position
decreasing_by
  · obtain ⟨hget, rfl⟩ := Channel.receive_event _found
    obtain ⟨hlt, -⟩ := Array.getElem?_eq_some_iff.1 hget
    exact Nat.sub_succ_lt_self _ _ hlt
  · obtain ⟨hlt, rfl, -⟩ := Channel.receive_lagged _found
    have hle : c.oldest ≤ c.sent.size := Nat.sub_le _ _
    exact Nat.sub_lt_sub_left (Nat.lt_of_lt_of_le hlt hle) hlt

/-- Poll a forwarder that reads the channel with this number. -/
def Hub.poll (h : Hub α) (id : ChannelId) (sink : Sink σ α) (s : σ) (f : Forwarder) :
    Poll σ α × Hub α :=
  match h.channel? id with
  | some c => let p := f.run sink c s; (p, h.modify id p.settle)
  | none => ({ status := .ended (.ok f.forwarded), sink := s }, h)

end ManagedNode
