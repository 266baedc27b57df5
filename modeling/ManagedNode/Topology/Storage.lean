import ManagedNode.Topology

/-!
Registration where storage may not grow.

States and transitions are kept in lists. Room for one more entry is asked for when nothing else is
in the way, and in all lists before the first of them is changed, so that a list that cannot grow
leaves everything as it was.

* `Shortage`, `Room`: why storage did not grow, and what comes of asking for it.
* `Topology.registerWithin`, `Topology.connectWithin`: registration as far as there is room. Each
  is told in full by `Topology.register` or `Topology.connect`, which take room for granted, and by
  what comes of asking for it.
-/

namespace ManagedNode

/-- Why storage did not grow. -/
inductive Shortage
  /-- More room was asked for than any collection may have. -/
  | capacity
  /-- There was no memory to be had. -/
  | memory
  deriving DecidableEq, Repr

/-- The reason as it is told. -/
def Shortage.reason : Shortage → String
  | capacity => Fault.capacityExceeded
  | memory => "memory allocation failed because the memory allocator returned an error"

/-- What comes of asking for room for one more entry in the list of this name. -/
abbrev Room := String → Except Shortage Unit

namespace Room

variable {room : Room} {what : String} {fault : Fault}

/-- Ask for room for one more entry in a list. -/
def reserve (room : Room) (what : String) : Except Fault Unit :=
  match room what with
  | .ok () => .ok ()
  | .error shortage => .error (.storageExhausted what shortage.reason)

theorem reserve_eq_ok_iff : room.reserve what = .ok () ↔ room what = .ok () := by
  rw [reserve]
  cases room what <;> simp

theorem reserve_eq_error_iff :
    room.reserve what = .error fault ↔
      ∃ shortage, room what = .error shortage ∧ fault = .storageExhausted what shortage.reason := by
  rw [reserve]
  cases room what <;> simp [eq_comm]

end Room

namespace Topology

variable {room : Room} {m m' : Topology} {s : State} {t : Transition} {fault : Fault}

/-- Register a state, if there is room for it. -/
def registerWithin (room : Room) (m : Topology) (s : State) : Except Fault Topology := do
  let grown ← m.register s
  room.reserve "transition map states"
  return grown

/-- Register a transition, if there is room for it among all transitions and among those that leave
its start. -/
def connectWithin (room : Room) (m : Topology) (t : Transition) : Except Fault Topology := do
  let grown ← m.connect t
  room.reserve "transition map transitions"
  room.reserve "state transition list"
  return grown

/-- What is registered is what would be with room to spare. -/
theorem registerWithin_eq_ok_iff :
    m.registerWithin room s = .ok m' ↔
      m.register s = .ok m' ∧ room "transition map states" = .ok () := by
  rw [registerWithin, ← Room.reserve_eq_ok_iff]
  cases m.register s with
  | error fault => simp [bind, Except.bind]
  | ok grown =>
      cases room.reserve "transition map states" <;> simp [bind, Except.bind, pure, Except.pure]

/-- Room is asked for last. -/
theorem registerWithin_eq_error_iff :
    m.registerWithin room s = .error fault ↔
      m.register s = .error fault ∨ (∃ m', m.register s = .ok m') ∧
        ∃ shortage, room "transition map states" = .error shortage ∧
          fault = .storageExhausted "transition map states" shortage.reason := by
  rw [registerWithin, ← Room.reserve_eq_error_iff]
  cases m.register s with
  | error fault => simp [bind, Except.bind]
  | ok grown =>
      cases room.reserve "transition map states" <;> simp [bind, Except.bind, pure, Except.pure]

/-- A transition is entered in both lists or in none. -/
theorem connectWithin_eq_ok_iff :
    m.connectWithin room t = .ok m' ↔
      m.connect t = .ok m' ∧ room "transition map transitions" = .ok () ∧
        room "state transition list" = .ok () := by
  rw [connectWithin, ← Room.reserve_eq_ok_iff, ← Room.reserve_eq_ok_iff]
  cases m.connect t with
  | error fault => simp [bind, Except.bind]
  | ok grown =>
      cases room.reserve "transition map transitions" <;>
        cases room.reserve "state transition list" <;>
          simp [bind, Except.bind, pure, Except.pure]

/-- Room is asked for last, and in the list of all transitions first. -/
theorem connectWithin_eq_error_iff :
    m.connectWithin room t = .error fault ↔
      m.connect t = .error fault ∨ (∃ m', m.connect t = .ok m') ∧
        ((∃ shortage, room "transition map transitions" = .error shortage ∧
            fault = .storageExhausted "transition map transitions" shortage.reason) ∨
          room "transition map transitions" = .ok () ∧
            ∃ shortage, room "state transition list" = .error shortage ∧
              fault = .storageExhausted "state transition list" shortage.reason) := by
  rw [connectWithin, ← Room.reserve_eq_ok_iff, ← Room.reserve_eq_error_iff,
    ← Room.reserve_eq_error_iff]
  cases m.connect t with
  | error fault => simp [bind, Except.bind]
  | ok grown =>
      cases room.reserve "transition map transitions" <;>
        cases room.reserve "state transition list" <;>
          simp [bind, Except.bind, pure, Except.pure]

end Topology

end ManagedNode
