/-!
Broadcast channels: one sender, and any number of receivers that each read at their own pace.

A channel is the history of what was sent on it, of which the last `capacity` entries can still
be read. A receiver is a position in that history: the next entry that it has not read.

* `Channel.send`, `Channel.close`, `Channel.subscribe`, `Channel.leave`.
* `Channel.receive`: the next event for a position; or how many events it missed, once, after
  which it goes on at the oldest event that can be read; or that there is nothing left, yet or
  for good. Reading changes the position alone, so that receivers do not disturb each other.
-/

namespace ManagedNode

/-- A channel with the history of its events. -/
structure Channel (α : Type) where
  /-- How many events can be read at a time. -/
  capacity : Nat
  /-- Every event sent so far. -/
  sent : Array α := #[]
  /-- Is the sender still there? -/
  isOpen : Bool := true
  /-- How many receivers there are. -/
  listeners : Nat := 0
  deriving Repr

/-- What a receiver may find. -/
inductive Received (α : Type)
  /-- The next event. -/
  | event (a : α)
  /-- So many events can no longer be read. -/
  | lagged (missed : Nat)
  /-- Everything has been read so far. -/
  | empty
  /-- Everything has been read, and nothing more will come. -/
  | closed
  deriving DecidableEq, Repr

namespace Channel

variable {α : Type} (c : Channel α)

/-- The position of the oldest event that can still be read. -/
def oldest : Nat := c.sent.size - c.capacity

/-- Does an event sent now reach anybody? -/
def isHeard : Bool := 0 < c.listeners

/-- Send an event. One that nobody hears is part of the history all the same, where no
receiver's position is ever before it. -/
def send (a : α) : Channel α := { c with sent := c.sent.push a }

/-- Drop the sender. -/
def close : Channel α := { c with isOpen := false }

/-- Add a receiver, which is to read from the position `c.sent.size` on. -/
def subscribe : Channel α := { c with listeners := c.listeners + 1 }

/-- Drop a receiver. -/
def leave : Channel α := { c with listeners := c.listeners - 1 }

/-- What a receiver finds at its position, and its position after that. -/
def receive (position : Nat) : Received α × Nat :=
  if position < c.oldest then (.lagged (c.oldest - position), c.oldest)
  else match c.sent[position]? with
    | some a => (.event a, position + 1)
    | none => (if c.isOpen then .empty else .closed, position)

/-! ### How a position moves -/

variable {c}

/-- An event is the one at the position, which moves on by one. -/
theorem receive_event {p q : Nat} {a : α} (h : c.receive p = (.event a, q)) :
    c.sent[p]? = some a ∧ q = p + 1 := by
  rw [receive] at h
  split at h
  · cases h
  · split at h
    · cases h; exact ⟨by assumption, rfl⟩
    · split at h <;> cases h

/-- A report of missed events moves the position to the oldest event, past all of them. -/
theorem receive_lagged {p q n : Nat} (h : c.receive p = (.lagged n, q)) :
    p < q ∧ q = c.oldest ∧ n = c.oldest - p := by
  rw [receive] at h
  split at h
  · cases h; exact ⟨by assumption, rfl, rfl⟩
  · split at h
    · cases h
    · split at h <;> cases h

end Channel

end ManagedNode
